import MiniOgas.CommandTerminal
import Mathlib.Tactic.ByContra

namespace MiniOgas

open Bounded Serial

/-- The operations of `MemoryStore` that write commands. A refresh of the projection, with which
two of them begin, is not part of them. -/
inductive StoreCommandOperation where
  | addCommand (request : CommandRequest)
  | pendingCommandsForNode (nodeCode : String)
  | claimPendingCommandsForNode (nodeCode agentId : String)
  | recordCommandResult (nodeCode : String) (commandId : Nat) (status message : String)
  | approveCommand (commandId : Nat) (actor : String)
  | approveHumanReviewCommand (commandId : Nat) (actor : String)
  | rejectCommand (commandId : Nat) (actor reason : String)
  | cancelCommand (commandId : Nat) (actor reason : String)
  | retryCommand (commandId : Nat) (actor : String)

structure CommandWrite where
  commands : List NodeCommand
  nodeCode : String
  stage : String
  severity : String
  message : String
  includeBase : Bool := false

structure CommandPlan where
  reply : List NodeCommand
  commands : List NodeCommand
  writes : List CommandWrite

/-- The transactions of `_apply_command_transitions`. -/
def transitionWrites (transitions : List CommandTransition) (severity : String) :
    List CommandWrite :=
  transitions.map fun transition =>
    { commands := [transition.command], nodeCode := transition.command.nodeCode
      stage := transition.stage, severity, message := transition.message }

def NodeCommand.write (command : NodeCommand) (stage severity message : String) : CommandWrite where
  commands := [command]
  nodeCode := command.nodeCode
  stage := stage
  severity := severity
  message := message

section Plans

variable (builtins : Builtins) (claimTimeoutSeconds : Int) (now : Timestamp)
  (commands : List NodeCommand)

def planAddCommand (request : CommandRequest) : Except ControlFault CommandPlan := do
  let ((command, transitions, created), commands') ← createCommand builtins commands now request
  return {
    reply := [command]
    commands := commands'
    writes := transitionWrites transitions "medium" ++
      if created then
        [{ commands := [command], nodeCode := request.nodeCode, stage := "command-created"
           severity := "info"
           message := s!"command_id={command.id} created with status={command.status.text} " ++
             s!"type={command.commandType}."
           includeBase := true }]
      else [] }

def planPendingCommands (nodeCode : String) : CommandPlan :=
  let expired := expireStaleClaims commands now claimTimeoutSeconds
  { reply := pendingForNode expired.2 nodeCode
    commands := expired.2
    writes := transitionWrites expired.1 "medium" }

def planClaim (nodeCode agentId : String) : CommandPlan :=
  let expired := expireStaleClaims commands now claimTimeoutSeconds
  let claimed := claimForNode expired.2 now nodeCode agentId
  { reply := claimed.1
    commands := claimed.2
    writes := transitionWrites expired.1 "medium" ++
      if claimed.1.isEmpty then []
      else
        [{ commands := claimed.1, nodeCode, stage := "command-claimed", severity := "info"
           message := s!"agent claimed {claimed.1.length} command(s): " ++
             ", ".intercalate (claimed.1.map fun command => toString command.id) }] }

def planRecordResult (nodeCode : String) (commandId : Nat) (status message : String) :
    Except ControlFault CommandPlan := do
  let ((command, changed), commands') ←
    recordResult commands now nodeCode commandId status message
  return {
    reply := [command]
    commands := commands'
    writes := if changed then
        [command.write "command-result" "info"
          s!"command_id={commandId} status={command.status.text}: {message}"]
      else [] }

def planApprove (commandId : Nat) (actor : String) : Except ControlFault CommandPlan := do
  let (command, commands') ← approve commands now commandId actor
  return {
    reply := [command]
    commands := commands'
    writes := [command.write "command-approved" "info"
      s!"运维人员 {actor} 审批通过命令 #{commandId} ({command.commandType})。"] }

def planApproveHumanReview (commandId : Nat) (actor : String) :
    Except ControlFault CommandPlan := do
  let (command, commands') ← approveHumanReview commands now commandId actor
  return {
    reply := [command]
    commands := commands'
    writes := [command.write "ai-suggestion-approved" "info"
      s!"运维人员 {actor} 审批通过 AI 建议命令 #{commandId}。"] }

def planReject (commandId : Nat) (actor reason : String) : Except ControlFault CommandPlan := do
  let (command, commands') ← reject commands now commandId actor
  let given := if reason = "" then "未提供" else reason
  return {
    reply := [command]
    commands := commands'
    writes := [command.write "command-rejected" "medium"
      s!"运维人员 {actor} 拒绝命令 #{commandId} ({command.commandType})。原因: {given}。"] }

def planCancel (commandId : Nat) (actor reason : String) : Except ControlFault CommandPlan := do
  let ((command, changed), commands') ← cancel commands now commandId actor reason
  let given := if reason = "" then "no reason provided" else reason
  return {
    reply := [command]
    commands := commands'
    writes := if changed then
        [command.write "command-cancelled" "medium"
          s!"command_id={commandId} cancelled by {actor}: {given}."]
      else [] }

def planRetry (commandId : Nat) (actor : String) : Except ControlFault CommandPlan := do
  let ((command, transitions), commands') ← retry builtins commands now commandId actor
  return {
    reply := [command]
    commands := commands'
    writes := transitionWrites transitions "medium" ++
      [{ command.write "command-retried" "info"
          s!"command_id={commandId} retried as command_id={command.id} by {actor}." with
        includeBase := true }] }

def StoreCommandOperation.plan : StoreCommandOperation → Except ControlFault CommandPlan
  | .addCommand request => planAddCommand builtins now commands request
  | .pendingCommandsForNode nodeCode =>
    .ok (planPendingCommands claimTimeoutSeconds now commands nodeCode)
  | .claimPendingCommandsForNode nodeCode agentId =>
    .ok (planClaim claimTimeoutSeconds now commands nodeCode agentId)
  | .recordCommandResult nodeCode commandId status message =>
    planRecordResult now commands nodeCode commandId status message
  | .approveCommand commandId actor => planApprove now commands commandId actor
  | .approveHumanReviewCommand commandId actor =>
    planApproveHumanReview now commands commandId actor
  | .rejectCommand commandId actor reason => planReject now commands commandId actor reason
  | .cancelCommand commandId actor reason => planCancel now commands commandId actor reason
  | .retryCommand commandId actor => planRetry builtins now commands commandId actor

end Plans

inductive PersistFault where
  | control (fault : ControlFault)
  | runtimeError (message : String)

structure CommandStore where
  commands : List NodeCommand
  committed : List CommandWrite

/-- What a call meets: `raises n` has the text of what its `n`-th transaction raises, if any. -/
structure CommandEnv where
  builtins : Builtins
  claimTimeoutSeconds : Int
  now : Timestamp
  raises : Nat → Option String

/-- `_persist_command_events` for one transaction after another, with primary projection: those
that are committed, and what the first other one raises. -/
def persistWrites (raises : Nat → Option String) :
    Nat → List CommandWrite → List CommandWrite × Option String
  | _, [] => ([], none)
  | n, write :: rest =>
    match raises n with
    | some error => ([], some error)
    | none =>
      let (committed, raised) := persistWrites raises (n + 1) rest
      (write :: committed, raised)

def CommandStore.plan (env : CommandEnv) (operation : StoreCommandOperation)
    (store : CommandStore) : Except ControlFault CommandPlan :=
  operation.plan env.builtins env.claimTimeoutSeconds env.now store.commands

def CommandStore.perform (env : CommandEnv) (operation : StoreCommandOperation)
    (store : CommandStore) : Except PersistFault (List NodeCommand) × CommandStore :=
  match store.plan env operation with
  | .error fault => (.error (.control fault), store)
  | .ok plan =>
    let (committed, raised) := persistWrites env.raises 0 plan.writes
    (match raised with
      | none => .ok plan.reply
      | some error =>
        .error (.runtimeError s!"PostgreSQL command/event transaction failed: {error}"),
      { commands := plan.commands, committed := store.committed ++ committed })

/-- One of the transactions that the call makes raises. -/
def CommandStore.TransactionRaises (env : CommandEnv) (operation : StoreCommandOperation)
    (store : CommandStore) : Prop :=
  ∃ plan, store.plan env operation = .ok plan ∧ ∃ n < plan.writes.length, (env.raises n).isSome

/-- When a transaction raises, the call raises and leaves the list in memory as it was. -/
def CommandStore.FailureUndone (env : CommandEnv) (operation : StoreCommandOperation)
    (store : CommandStore) : Prop :=
  store.TransactionRaises env operation →
    (∃ fault, (store.perform env operation).1 = .error fault) ∧
      (store.perform env operation).2.commands = store.commands

variable {commands commands' : List NodeCommand} {command updated : NodeCommand}
  {now : Timestamp} {builtins : Builtins} {claimTimeoutSeconds : Int} {plan : CommandPlan}
  {operation : StoreCommandOperation} {env : CommandEnv} {store : CommandStore}
  {f : NodeCommand → NodeCommand} {transitions : List CommandTransition} {commandId : Nat}
  {actor : String}

theorem modifyFirst_ne {p : NodeCommand → Bool} (found : commands.find? p = some command)
    (meets : p updated = true) {α : Type} (column : NodeCommand → α)
    (changed : column updated ≠ column command) :
    modifyFirst p (fun _ => updated) commands ≠ commands := by
  intro same
  have first := @find?_modifyFirst _ p (fun _ => updated) _ _ found meets
  rw [same, found] at first
  exact changed (congrArg column (Option.some.inj first)).symm

theorem map_ne (member : command ∈ commands) (changed : (f command).status ≠ command.status) :
    commands.map f ≠ commands := by
  intro same
  have each : commands.map f = commands.map id := same.trans (List.map_id commands).symm
  exact changed (congrArg NodeCommand.status (List.map_inj_left.mp each command member))

theorem createCommand_ne {request : CommandRequest}
    (h : createCommand builtins commands now request =
      .ok ((command, transitions, true), commands')) :
    commands' ≠ commands := by
  unfold createCommand at h
  split at h
  next => cases h
  next =>
    obtain ⟨ttlSeconds, -, h⟩ := of_bind h
    cases h
    intro same
    have last := mem_keepLast_append 99 (request.replaces commands now).2
      (request.command now (nextCommandId commands) ttlSeconds)
    change _ ∈ keepLast commandCapacity _ at last
    rw [same] at last
    have le := le_greatest (List.mem_map_of_mem (f := (·.id)) last)
    change nextCommandId commands ≤ _ at le
    unfold nextCommandId at le
    omega

theorem retry_ne
    (h : retry builtins commands now commandId actor = .ok ((command, transitions), commands')) :
    commands' ≠ commands := by
  obtain ⟨source, -, h⟩ := of_bind h
  replace h := of_then h
  obtain ⟨⟨⟨_, _, created⟩, _⟩, performed, same⟩ := of_bind h
  cases same
  cases created with
  | true => exact createCommand_ne performed
  | false =>
    unfold createCommand at performed
    rw [repeatedCommand_retryRequest] at performed
    obtain ⟨_, -, performed⟩ := of_bind performed
    cases performed

theorem recordResult_ne {nodeCode status message : String}
    (h : recordResult commands now nodeCode commandId status message =
      .ok ((updated, true), commands')) :
    commands' ≠ commands := by
  rcases recordResult_stored h with ⟨same, -⟩ | ⟨command, found, named, -, same, -, different, rfl⟩
  · cases same
  · have id : updated.id = command.id := congrArg CommandIdentity.id same
    have nodeCode : updated.nodeCode = command.nodeCode := congrArg CommandIdentity.nodeCode same
    refine modifyFirst_ne found (by simp [id, nodeCode, named])
      (fun command => (command.status, command.resultMessage)) fun same => different ?_
    obtain ⟨status, result⟩ := Prod.mk.inj same
    exact ⟨status.symm, result.symm⟩

theorem storeCommand_ne (found : findCommand commands commandId = .ok command)
    (named : updated.id = command.id) (changed : updated.status ≠ command.status) :
    storeCommand commands updated ≠ commands := by
  have found := orFault_eq_ok.mp found
  have is : command.id = commandId := by simpa using List.find?_some found
  unfold storeCommand
  rw [named, is]
  exact modifyFirst_ne found (decide_eq_true (named.trans is)) NodeCommand.status changed

theorem Settles.ne {settlement : Settlement}
    (settles : Settles commands settlement commandId command updated commands')
    (waiting : command.status = .waitingApproval) : commands' ≠ commands := by
  rw [settles.stored]
  refine storeCommand_ne (orFault_eq_ok.mpr settles.found)
    (congrArg CommandIdentity.id settles.same) ?_
  rw [settles.status, waiting]
  cases settlement <;> exact nofun

theorem cancel_ne {actor reason : String}
    (h : cancel commands now commandId actor reason = .ok ((updated, true), commands')) :
    commands' ≠ commands := by
  obtain ⟨command, found, h⟩ := of_bind h
  split at h
  next => cases h
  next live =>
    replace h := of_then h
    cases h
    exact storeCommand_ne found rfl fun same => live same.symm

theorem expireStaleClaims_none
    (fresh : ¬ ∃ command ∈ commands, command.staleClaim now claimTimeoutSeconds = true) :
    expireStaleClaims commands now claimTimeoutSeconds = ([], commands) := by
  have none : ∀ command ∈ commands, ¬ command.staleClaim now claimTimeoutSeconds = true :=
    fun command member stale => fresh ⟨command, member, stale⟩
  unfold expireStaleClaims
  rw [List.filter_eq_nil_iff.mpr none]
  have same : (commands.map fun command => if command.staleClaim now claimTimeoutSeconds then
      command.expire now claimTimeoutSeconds else command) = commands := by
    have each : ∀ command ∈ commands, (if command.staleClaim now claimTimeoutSeconds then
        command.expire now claimTimeoutSeconds else command) = id command :=
      fun command member => if_neg (none command member)
    rw [List.map_congr_left each, List.map_id]
  rw [same]
  rfl

theorem status_of_staleClaim (stale : command.staleClaim now claimTimeoutSeconds = true) :
    command.status = .claimed := by
  rw [NodeCommand.staleClaim, Bool.and_eq_true] at stale
  exact of_decide_eq_true stale.1

theorem expire_ne
    (stale : ∃ command ∈ commands, command.staleClaim now claimTimeoutSeconds = true) :
    (commands.map fun command => if command.staleClaim now claimTimeoutSeconds then
      command.expire now claimTimeoutSeconds else f command) ≠ commands := by
  obtain ⟨command, member, stale⟩ := stale
  refine map_ne member fun same => ?_
  rw [if_pos stale, status_of_staleClaim stale] at same
  cases same

theorem planPendingCommands_ne {nodeCode : String}
    (writes : (planPendingCommands claimTimeoutSeconds now commands nodeCode).writes ≠ []) :
    (planPendingCommands claimTimeoutSeconds now commands nodeCode).commands ≠ commands := by
  refine expire_ne ?_
  by_contra fresh
  refine writes ?_
  rw [planPendingCommands, expireStaleClaims_none fresh]
  rfl

theorem planClaim_commands (nodeCode agentId : String) :
    (planClaim claimTimeoutSeconds now commands nodeCode agentId).commands =
      commands.map fun command =>
        if command.staleClaim now claimTimeoutSeconds then command.expire now claimTimeoutSeconds
        else if command.nodeCode = nodeCode && command.status.claimable then
          command.claim now nodeCode agentId
        else command := by
  change (List.map _ (List.map _ commands)) = _
  rw [List.map_map]
  refine List.map_congr_left fun command _ => ?_
  by_cases stale : command.staleClaim now claimTimeoutSeconds = true
  · simp [stale, NodeCommand.expire, CommandStatus.claimable]
  · simp [stale]

theorem planClaim_ne {nodeCode agentId : String}
    (writes : (planClaim claimTimeoutSeconds now commands nodeCode agentId).writes ≠ []) :
    (planClaim claimTimeoutSeconds now commands nodeCode agentId).commands ≠ commands := by
  by_cases stale : ∃ command ∈ commands, command.staleClaim now claimTimeoutSeconds = true
  · rw [planClaim_commands]
    exact expire_ne stale
  · rw [planClaim, expireStaleClaims_none stale] at writes ⊢
    have some : (claimForNode commands now nodeCode agentId).1 ≠ [] :=
      fun none => writes (by simp [transitionWrites, none])
    obtain ⟨claimed, member⟩ := List.exists_mem_of_ne_nil _ some
    obtain ⟨command, pending, -⟩ := List.mem_map.mp member
    obtain ⟨there, claimable⟩ := List.mem_filter.mp pending
    refine map_ne there fun same => ?_
    rw [if_pos claimable] at same
    rw [Bool.and_eq_true] at claimable
    have status : command.status = .claimed := same.symm
    rw [status] at claimable
    cases claimable.2

theorem plan_ne (planned : operation.plan builtins claimTimeoutSeconds now commands = .ok plan)
    (writes : plan.writes ≠ []) : plan.commands ≠ commands := by
  cases operation with
  | addCommand request =>
    obtain ⟨⟨⟨command, transitions, created⟩, commands'⟩, performed, planned⟩ :=
      of_bind planned
    cases planned
    cases created with
    | true => exact createCommand_ne performed
    | false =>
      unfold createCommand at performed
      split at performed
      next =>
        cases performed
        exact absurd rfl writes
      next =>
        obtain ⟨_, -, performed⟩ := of_bind performed
        cases performed
  | pendingCommandsForNode nodeCode =>
    cases planned
    exact planPendingCommands_ne writes
  | claimPendingCommandsForNode nodeCode agentId =>
    cases planned
    exact planClaim_ne writes
  | recordCommandResult nodeCode commandId status message =>
    obtain ⟨⟨⟨command, changed⟩, commands'⟩, performed, planned⟩ := of_bind planned
    cases planned
    cases changed with
    | true => exact recordResult_ne performed
    | false => exact absurd rfl writes
  | approveCommand commandId actor =>
    obtain ⟨⟨command, commands'⟩, performed, planned⟩ := of_bind planned
    cases planned
    obtain ⟨_, settles, waiting⟩ := approve_settles performed
    exact settles.ne waiting
  | approveHumanReviewCommand commandId actor =>
    obtain ⟨⟨command, commands'⟩, performed, planned⟩ := of_bind planned
    cases planned
    obtain ⟨_, settles, waiting⟩ := approveHumanReview_settles performed
    exact settles.ne waiting
  | rejectCommand commandId actor reason =>
    obtain ⟨⟨command, commands'⟩, performed, planned⟩ := of_bind planned
    cases planned
    obtain ⟨_, settles, waiting⟩ := reject_settles performed
    exact settles.ne waiting
  | cancelCommand commandId actor reason =>
    obtain ⟨⟨⟨command, changed⟩, commands'⟩, performed, planned⟩ := of_bind planned
    cases planned
    cases changed with
    | true => exact cancel_ne performed
    | false => exact absurd rfl writes
  | retryCommand commandId actor =>
    obtain ⟨⟨⟨command, transitions⟩, commands'⟩, performed, planned⟩ := of_bind planned
    cases planned
    exact retry_ne performed

theorem persistWrites_raises {raises : Nat → Option String} {first : Nat}
    {writes : List CommandWrite} :
    (persistWrites raises first writes).2.isSome = true ↔
      ∃ n < writes.length, (raises (first + n)).isSome = true := by
  induction writes generalizing first with
  | nil => simp [persistWrites]
  | cons write rest ih =>
    rw [persistWrites]
    cases raised : raises first with
    | some error => exact iff_of_true rfl ⟨0, by simp, by rw [Nat.add_zero, raised]; rfl⟩
    | none =>
      rw [ih]
      constructor
      · rintro ⟨n, bound, some⟩
        refine ⟨n + 1, by simpa using bound, ?_⟩
        rw [← some, Nat.add_assoc, Nat.add_comm 1 n]
      · rintro ⟨n, bound, some⟩
        cases n with
        | zero =>
          rw [Nat.add_zero, raised] at some
          cases some
        | succ n =>
          refine ⟨n, by simpa using bound, ?_⟩
          rw [← some, Nat.add_assoc, Nat.add_comm 1 n]

theorem perform_of_raises (raises : store.TransactionRaises env operation) :
    (∃ fault, (store.perform env operation).1 = .error fault) ∧
      (store.perform env operation).2.commands ≠ store.commands := by
  obtain ⟨plan, planned, n, bound, some⟩ := raises
  have raised : (persistWrites env.raises 0 plan.writes).2.isSome = true :=
    persistWrites_raises.mpr ⟨n, bound, by rw [Nat.zero_add]; exact some⟩
  obtain ⟨error, raised⟩ := Option.isSome_iff_exists.mp raised
  have writes : plan.writes ≠ [] := fun none => by
    rw [none] at bound
    cases bound
  unfold CommandStore.perform
  rw [planned]
  dsimp only
  rw [raised]
  exact ⟨⟨_, rfl⟩, plan_ne planned writes⟩

theorem failureUndone_iff (env : CommandEnv) (operation : StoreCommandOperation)
    (store : CommandStore) :
    store.FailureUndone env operation ↔ ¬ store.TransactionRaises env operation := by
  constructor
  · intro undone raises
    exact (perform_of_raises raises).2 (undone raises).2
  · exact fun none raises => absurd raises none

structure StoreCommandCall where
  env : CommandEnv
  operation : StoreCommandOperation

def CommandStore.run (store : CommandStore) (calls : List StoreCommandCall) : CommandStore :=
  calls.foldl (fun store call => (store.perform call.env call.operation).2) store

/-- At each call of a run, the property holds of what it meets. -/
def CommandStore.AtEach (P : StoreCommandCall → CommandStore → Prop) (store : CommandStore)
    (calls : List StoreCommandCall) : Prop :=
  ∀ before call after, calls = before ++ call :: after → P call (store.run before)

/-- The failures of a run are undone exactly when there are none. -/
theorem failures_undone_iff (store : CommandStore) (calls : List StoreCommandCall) :
    store.AtEach (fun call met => met.FailureUndone call.env call.operation) calls ↔
      store.AtEach (fun call met => ¬ met.TransactionRaises call.env call.operation) calls := by
  constructor
  · intro undone before call after split
    exact (failureUndone_iff _ _ _).mp (undone before call after split)
  · intro none before call after split
    exact (failureUndone_iff _ _ _).mpr (none before call after split)

def sampleLostCommand : StoreCommandCall where
  env :=
    { builtins := sampleBuiltins, claimTimeoutSeconds := 300, now := 0
      raises := fun _ => some "connection lost" }
  operation := .addCommand (sampleRateRequest "milling-workshop-01")

theorem failed_command_stays : ¬∀ calls : List StoreCommandCall,
    (⟨[], []⟩ : CommandStore).AtEach
      (fun call met => met.FailureUndone call.env call.operation) calls := by
  intro h
  let store : CommandStore := ⟨[], []⟩
  have writes : ((store.plan sampleLostCommand.env sampleLostCommand.operation).toOption.map
      (·.writes.length)) = some 1 := by decide +kernel
  have left : ((store.perform sampleLostCommand.env sampleLostCommand.operation).2.commands.map
      (·.id)) = [1] := by decide +kernel
  have raises : store.TransactionRaises sampleLostCommand.env sampleLostCommand.operation := by
    cases planned : store.plan sampleLostCommand.env sampleLostCommand.operation with
    | error fault =>
      rw [planned] at writes
      cases writes
    | ok plan =>
      rw [planned] at writes
      have one : plan.writes.length = 1 := Option.some.inj writes
      exact ⟨plan, planned, 0, by omega, rfl⟩
  have same := (h [sampleLostCommand] [] sampleLostCommand [] rfl raises).2
  have same : (store.perform sampleLostCommand.env sampleLostCommand.operation).2.commands =
      [] := same
  rw [same] at left
  cases left

end MiniOgas
