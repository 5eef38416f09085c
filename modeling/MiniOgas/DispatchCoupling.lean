import MiniOgas.RateProposals
import MiniOgas.SuggestionReview
import MiniOgas.VerdictLaws

namespace MiniOgas

open Bounded Procedure Serial CommandControlService DispatchControlService

variable {env : ControlEnv} {now : Timestamp} {state state' : ControlState}
  {commands commands' : List NodeCommand} {command updated : NodeCommand}
  {order : AllocationOrder} {orders : List AllocationOrder} {orderId : String}
  {status : OrderStatus} {event : GovernedEvent} {builtins : Builtins} {verdict : DispatchVerdict}
  {nodeCode reported message : String} {systemProduction : List (String × Fields)}
  {observed : List NodeCommand} {reply : NodeCommand × List CommandTransition × Bool}

def CommandStatus.underWay (status : CommandStatus) : Bool :=
  status = .pending || status = .queued || status = .claimed || status = .executed ||
    status = .applied

/-- The command is what the status of the order says there is. -/
def Backs (builtins : Builtins) (order : AllocationOrder) (command : NodeCommand) : Prop :=
  command.carries builtins order.orderId = true ∧
    (order.status = .awaitingApproval ∧ command.status = .waitingApproval ∨
      order.status = .dispatched ∧ command.status.underWay = true)

def AllocationOrder.Bound (order : AllocationOrder) : Prop :=
  order.status = .awaitingApproval ∨ order.status = .dispatched

/-- An order that awaits approval has a waiting command, and one that is dispatched has one that
is under way. -/
def DispatchCoupled (builtins : Builtins) (state : ControlState) : Prop :=
  ∀ order ∈ state.orders, order.Bound → ∃ command ∈ state.commands, Backs builtins order command

/-- Every bound order has a command that is not lost. -/
def Spares (builtins : Builtins) (state : ControlState) (lost : NodeCommand → Prop) : Prop :=
  ∀ order ∈ state.orders, order.Bound →
    ∃ command ∈ state.commands, Backs builtins order command ∧ ¬ lost command

/-- The samples of a command that is still observed are numbers. -/
def NodeCommand.Legible (builtins : Builtins) (verifier : CommandVerifier) (now : Timestamp)
    (systemProduction : List (String × Fields)) (command : NodeCommand) : Prop :=
  command.verificationStatus.terminal = false → command.commandType = "set_target_rate" →
    ∃ past backlogs, pastObservations command.verificationEvidence = .ok past ∧
      backlogValues builtins (keepLast verifier.maxObservations
        (past ++ [observation builtins now command systemProduction])) = .ok backlogs

/-- No bound order loses its last command to a replacement, to the capacity of the list, to the
timeout of a claim or to a failure, and the commands that are observed can be. Only a proposal
sets an order to await approval, under a condition of its own. -/
def KeepsBacking (env : ControlEnv) (now : Timestamp) (state : ControlState) :
    GovernedEvent → Prop
  | .created request =>
    repeatedCommand env.store.builtins state.commands request = none →
      Spares env.store.builtins state fun command =>
        command.isOpen request.nodeCode request.commandType = true ∨
          command.leaves state.commands
  | .retried commandId _ => Spares env.store.builtins state fun command =>
    (∃ source, state.commands.find? (·.id = commandId) = some source ∧
      command.isOpen source.nodeCode source.commandType = true) ∨ command.leaves state.commands
  | .suggested input => input.needsReview = true →
    Spares env.store.builtins state fun command => command.leaves state.commands
  | .awaiting _ => False
  | .expired => Spares env.store.builtins state fun command =>
    command.staleClaim now env.commandClaimTimeoutSeconds = true
  | .resulted nodeCode commandId status _ => normalizedResult status = some .failed →
    Spares env.store.builtins state fun command =>
      command.id = commandId ∧ command.nodeCode = nodeCode
  | .observed nodeCode systemProduction => ∀ command ∈ state.commands,
    command.observable nodeCode = true →
      command.Legible env.store.builtins env.verifier now systemProduction
  | _ => True

/-- The dispatches that repeat no command of the list, when so many have created theirs. -/
def freshIssues (builtins : Builtins) (commands : List NodeCommand) :
    Nat → List DispatchIssue → List DispatchIssue
  | _, [] => []
  | created, issue :: rest =>
    match repeatedCommand builtins (keepLast (commandCapacity - created) commands)
        issue.targetRateIssue.request with
    | some _ => freshIssues builtins commands created rest
    | none => issue :: freshIssues builtins commands (created + 1) rest

/-- The nodes of the dispatches are registered, one of them is fresh or the order has a waiting
command, and every other bound order has a command that the fresh ones neither replace nor push
out of the list. -/
structure BacksProposal (builtins : Builtins) (state : ControlState) (order : AllocationOrder)
    (issues : List DispatchIssue) : Prop where
  known : ∀ issue ∈ issues, state.store.nodes.contains issue.nodeCode = true
  own : freshIssues builtins state.commands 0 issues ≠ [] ∨ ∃ command ∈ state.commands,
    command.carries builtins order.orderId = true ∧ command.status = .waitingApproval
  others : ∀ other ∈ state.orders, other.orderId ≠ order.orderId → other.Bound →
    ∃ command ∈ keepLast (commandCapacity -
        (freshIssues builtins state.commands 0 issues).length) state.commands,
      Backs builtins other command ∧ ∀ issue ∈ freshIssues builtins state.commands 0 issues,
        command.isOpen issue.nodeCode "set_target_rate" = false

instance backsDecidable (builtins : Builtins) (order : AllocationOrder) (command : NodeCommand) :
    Decidable (Backs builtins order command) :=
  inferInstanceAs (Decidable (_ ∧ _))

instance boundDecidable (order : AllocationOrder) : Decidable order.Bound :=
  inferInstanceAs (Decidable (_ ∨ _))

instance backsProposalDecidable (builtins : Builtins) (state : ControlState)
    (order : AllocationOrder) (issues : List DispatchIssue) :
    Decidable (BacksProposal builtins state order issues) :=
  decidable_of_iff (_ ∧ _ ∧ _) ⟨fun ⟨known, own, others⟩ => ⟨known, own, others⟩,
    fun ⟨known, own, others⟩ => ⟨known, own, others⟩⟩

def ControlCall.KeepsOrders (env : ControlEnv) (state : ControlState) (call : ControlCall) : Prop :=
  match call.operation with
  | .proposeTargetRates actor orderId nodeCode =>
    env.store.settings.controlMode ≠ .readOnly → ∀ order issues,
      proposal env actor orderId nodeCode state = .ok (order, issues) →
        BacksProposal env.store.builtins state order issues
  | _ => call.Meets env (KeepsBacking env) state

theorem orderIdOf_injective : Function.Injective orderIdOf := by
  intro m n same
  have decode : ∀ k, Nat.ofDigitChars 10 ((orderIdOf k).toList.drop 3) 0 = k := by
    intro k
    have digits : (orderIdOf k).toList.drop 3 =
        List.replicate (3 - (toString k).length) '0' ++ Nat.toDigits 10 k := by
      simp [orderIdOf]
    rw [digits, Nat.ofDigitChars_append, Nat.ofDigitChars_replicate_zero, Nat.mul_zero]
    exact Nat.ofDigitChars_toDigits (by omega) (by omega)
  rw [← decode m, ← decode n, same]

structure OrdersSound (state : ControlState) : Prop where
  distinct : (state.orders.map (·.orderId)).Nodup
  numbered : ∀ order ∈ state.orders, ∃ n ≤ state.orderSeq, order.orderId = orderIdOf n

theorem map_orderId_setStatus (orders : List AllocationOrder) :
    (modifyFirst (fun order => order.orderId = orderId)
      (fun order => { order with status := status }) orders).map (·.orderId) =
      orders.map (·.orderId) := by
  induction orders with
  | nil => rfl
  | cons order rest ih =>
    rw [modifyFirst]
    split
    next => rfl
    next => rw [List.map_cons, List.map_cons, ih]

theorem mem_setStatus (distinct : (orders.map (·.orderId)).Nodup)
    (member : order ∈ modifyFirst (fun order => order.orderId = orderId)
      (fun order => { order with status := status }) orders) :
    order.orderId = orderId ∧ order.status = status ∨ order.orderId ≠ orderId ∧ order ∈ orders := by
  induction orders with
  | nil => exact absurd member List.not_mem_nil
  | cons first rest ih =>
    rw [List.map_cons, List.nodup_cons] at distinct
    rw [modifyFirst] at member
    split at member
    next own =>
      have own : first.orderId = orderId := by simpa using own
      rcases List.mem_cons.mp member with rfl | later
      · exact .inl ⟨own, rfl⟩
      · refine .inr ⟨fun same => distinct.1 ?_, List.mem_cons_of_mem _ later⟩
        exact List.mem_map.mpr ⟨order, later, same.trans own.symm⟩
    next other =>
      have other : first.orderId ≠ orderId := by simpa using other
      rcases List.mem_cons.mp member with rfl | later
      · exact .inr ⟨other, List.mem_cons_self⟩
      · rcases ih distinct.2 later with set | ⟨ne, old⟩
        · exact .inl set
        · exact .inr ⟨ne, List.mem_cons_of_mem _ old⟩

theorem OrdersSound.of_ids (sound : OrdersSound state)
    (ids : state'.orders.map (·.orderId) = state.orders.map (·.orderId))
    (seq : state'.orderSeq = state.orderSeq) : OrdersSound state' := by
  refine ⟨by rw [ids]; exact sound.distinct, fun order member => ?_⟩
  have there : order.orderId ∈ state.orders.map (·.orderId) := by
    rw [← ids]
    exact List.mem_map.mpr ⟨order, member, rfl⟩
  obtain ⟨old, member, same⟩ := List.mem_map.mp there
  obtain ⟨n, le, named⟩ := sound.numbered old member
  exact ⟨n, by omega, same ▸ named⟩

theorem update_ids (builtins : Builtins) (command : NodeCommand) (verdict : DispatchVerdict)
    (state : ControlState) :
    (updateDispatchControlStatus builtins command verdict state).orders.map (·.orderId) =
      state.orders.map (·.orderId) := by
  rw [update_orders]
  split
  next => exact map_orderId_setStatus state.orders
  next => rfl

theorem update_orderSeq (builtins : Builtins) (command : NodeCommand) (verdict : DispatchVerdict)
    (state : ControlState) :
    (updateDispatchControlStatus builtins command verdict state).orderSeq = state.orderSeq := by
  unfold updateDispatchControlStatus
  split
  next => cases verdict <;> rfl
  next => rfl

theorem project_ids (observed : List NodeCommand) (state : ControlState) :
    (observed.foldl (ControlState.project env) state).orders.map (·.orderId) =
        state.orders.map (·.orderId) ∧
      (observed.foldl (ControlState.project env) state).orderSeq = state.orderSeq := by
  induction observed generalizing state with
  | nil => exact ⟨rfl, rfl⟩
  | cons command rest ih =>
    rw [List.foldl_cons]
    obtain ⟨ids, seq⟩ := ih (state.project env command)
    rw [ids, seq]
    unfold ControlState.project
    split
    next => exact ⟨rfl, rfl⟩
    next => exact ⟨update_ids _ _ _ _, update_orderSeq _ _ _ _⟩

theorem ordersSound_submitted (sound : OrdersSound state) (input : AllocationOrderIn) :
    OrdersSound (state.addAllocationOrder input) := by
  have fresh : orderIdOf (state.orderSeq + 1) ∉ state.orders.map (·.orderId) := by
    intro there
    obtain ⟨old, member, same⟩ := List.mem_map.mp there
    obtain ⟨n, le, named⟩ := sound.numbered old member
    have := orderIdOf_injective (named.symm.trans same)
    omega
  refine ⟨?_, fun order member => ?_⟩
  · refine List.Nodup.sublist ((keepLast_sublist _ _).map _) ?_
    rw [List.map_append]
    exact List.Nodup.append sound.distinct (List.nodup_singleton _) (by simpa using fresh)
  · rcases of_mem_keepLast_append member with old | rfl
    · obtain ⟨n, le, named⟩ := sound.numbered order old
      exact ⟨n, Nat.le_succ_of_le le, named⟩
    · exact ⟨state.orderSeq + 1, Nat.le_refl _, rfl⟩

theorem ordersSound_step (step : GovernedStep env now state event state')
    (sound : OrdersSound state) : OrdersSound state' := by
  cases step with
  | elsewhere _ orders seq => exact sound.of_ids (by rw [orders]) seq
  | submitted input => exact ordersSound_submitted sound input
  | awaiting orderId => exact sound.of_ids (map_orderId_setStatus state.orders) rfl
  | settled => exact sound.of_ids (update_ids _ _ _ _) (update_orderSeq _ _ _ _)
  | observed =>
    obtain ⟨ids, seq⟩ := @project_ids env _ { state with commands := _ }
    exact sound.of_ids ids seq
  | recorded | created | suggested | reviewed | retried | claimed | expired | resulted
    | interrupted => exact sound.of_ids rfl rfl

theorem carries_of_identity (same : updated.identity = command.identity) :
    updated.carries builtins orderId = command.carries builtins orderId := by
  have parameters : updated.parameters = command.parameters :=
    congrArg CommandIdentity.parameters same
  unfold NodeCommand.carries NodeCommand.isDispatchTargetRate NodeCommand.sourceOrderId
  rw [parameters]

theorem coupled_of_spared {lost : NodeCommand → Prop} (orders : state'.orders = state.orders)
    (spares : Spares builtins state lost)
    (stays : ∀ command ∈ state.commands, ¬ lost command → command ∈ state'.commands) :
    DispatchCoupled builtins state' := by
  intro order member bound
  rw [orders] at member
  obtain ⟨command, there, backs, kept⟩ := spares order member bound
  exact ⟨command, stays command there kept, backs⟩

theorem Backs.of_identity (backs : Backs builtins order command)
    (same : updated.identity = command.identity)
    (status : command.status = .waitingApproval ∧ updated.status = .waitingApproval ∨
      updated.status.underWay = true ∧ command.status ≠ .waitingApproval) :
    Backs builtins order updated := by
  refine ⟨(carries_of_identity same).trans backs.1, ?_⟩
  rcases backs.2 with ⟨awaiting, waiting⟩ | ⟨dispatched, underWay⟩
  · rcases status with ⟨-, updated⟩ | ⟨-, other⟩
    · exact .inl ⟨awaiting, updated⟩
    · exact absurd waiting other
  · rcases status with ⟨waiting, -⟩ | ⟨updated, -⟩
    · rw [waiting] at underWay
      cases underWay
    · exact .inr ⟨dispatched, updated⟩

theorem source_of_carries (carries : command.carries builtins orderId = true) :
    command.isDispatchTargetRate = true ∧ command.sourceOrderId builtins = orderId := by
  unfold NodeCommand.carries at carries
  simpa using carries

theorem mem_update (distinct : (state.orders.map (·.orderId)).Nodup)
    (member : order ∈ (updateDispatchControlStatus builtins command verdict state).orders) :
    command.carries builtins order.orderId = true ∧ order.status = verdict.orderStatus ∨
      command.carries builtins order.orderId = false ∧ order ∈ state.orders := by
  rw [update_orders] at member
  unfold NodeCommand.carries
  split at member
  next governed =>
    rw [governed]
    rcases mem_setStatus distinct member with ⟨own, status⟩ | ⟨other, old⟩
    · exact .inl ⟨by simp [own], status⟩
    · exact .inr ⟨by simp [Ne.symm other], old⟩
  next free => exact .inr ⟨by simp [free], member⟩

theorem coupled_settled {settlement : Settlement} (coupled : DispatchCoupled builtins state)
    (increasing : (state.commands.map (·.id)).Pairwise (· < ·))
    (distinct : (state.orders.map (·.orderId)).Nodup)
    (found : state.commands.find? (·.id = command.id) = some command)
    (same : updated.identity = command.identity) (status : updated.status = settlement.status)
    (permitted : settlement.Permitted state.decisions command) :
    DispatchCoupled builtins (state.settle builtins settlement command updated) := by
  have id : updated.id = command.id := congrArg CommandIdentity.id same
  have own := List.mem_of_find?_eq_some found
  rw [← id] at found
  intro order member bound
  rw [settle_commands]
  rcases mem_update (by exact distinct) member with ⟨carries, reached⟩ | ⟨other, old⟩
  · refine ⟨updated, mem_modifyFirst found, (carries_of_identity same).trans carries, ?_⟩
    cases settlement with
    | approve => exact .inr ⟨reached, by rw [status]; rfl⟩
    | accept =>
      have governed := (source_of_carries carries).1
      rw [isDispatchTargetRate_of_review permitted.2] at governed
      cases governed
    | reject | cancel => rcases bound with waits | waits <;> rw [reached] at waits <;> cases waits
  · obtain ⟨backing, there, backs⟩ := coupled order old bound
    refine ⟨backing, mem_storeCommand_of_ne found there fun named => ?_, backs⟩
    have twin : backing = command := eq_of_increasing increasing there own (named.trans id)
    rw [twin, Backs, other] at backs
    cases backs.1

theorem recordResult_cases {commandId : Nat} {changed : Bool}
    (h : recordResult commands now nodeCode commandId reported message =
      .ok ((updated, changed), commands')) (member : command ∈ commands) :
    command ∈ commands' ∨
      command.id = commandId ∧ command.nodeCode = nodeCode ∧
      command.status.acceptsResult = true ∧
      updated ∈ commands' ∧ updated.identity = command.identity ∧
      normalizedResult reported = some updated.status := by
  rcases recordResult_stored h with
    ⟨-, rfl⟩ | ⟨target, found, named, accepts, same, normalized, -, rfl⟩
  · exact .inl member
  · by_cases own : command = target
    · rw [own]
      exact .inr ⟨named.1, named.2, accepts, mem_modifyFirst found, same, normalized⟩
    · exact .inl (mem_modifyFirst_of_ne found member own)

theorem coupled_resulted {commandId : Nat} {reply : NodeCommand × Bool}
    (coupled : DispatchCoupled env.store.builtins state)
    (meets : KeepsBacking env now state (.resulted nodeCode commandId reported message))
    (done : recordResult state.commands now nodeCode commandId reported message =
      .ok (reply, commands')) :
    DispatchCoupled env.store.builtins { state with commands := commands' } := by
  intro order member bound
  by_cases failed : normalizedResult reported = some .failed
  · obtain ⟨command, there, backs, spared⟩ := meets failed order member bound
    rcases recordResult_cases done there with kept | ⟨id, node, -⟩
    · exact ⟨command, kept, backs⟩
    · exact absurd ⟨id, node⟩ spared
  · obtain ⟨command, there, backs⟩ := coupled order member bound
    rcases recordResult_cases done there with kept | ⟨-, -, accepts, left, same, reached⟩
    · exact ⟨command, kept, backs⟩
    · refine ⟨reply.1, left, backs.of_identity same (.inr ⟨?_, fun waits => ?_⟩)⟩
      · rcases normalizedResult_cases reached with applied | broken
        · rw [applied]
          rfl
        · rw [broken] at reached
          exact absurd reached failed
      · rw [waits] at accepts
        cases accepts

theorem conclude_verdict (verifier : CommandVerifier) (evidence : CommandEvidence)
    (downstream : Option Fields) :
    (verifier.conclude evidence downstream).1 = .observing ∨
      (verifier.conclude evidence downstream).1 ≠ .notStarted ∧
      (verifier.conclude evidence downstream).1.verdict.isSome = true := by
  unfold CommandVerifier.conclude
  simp only
  repeat' split
  all_goals first | exact .inl rfl | exact .inr ⟨by simp, rfl⟩

theorem observe_underWay {result : CommandVerification}
    (h : env.verifier.observe env.store.builtins now command systemProduction =
      .ok (result, updated)) (underWay : command.status.underWay = true) :
    updated.identity = command.identity ∧ (updated.status.underWay = true ∨
      result.status ≠ .notStarted ∧ updated.verificationStatus.verdict.isSome = true) := by
  unfold CommandVerifier.observe at h
  split at h
  next =>
    cases h
    exact ⟨rfl, .inl underWay⟩
  next =>
    split at h
    next =>
      cases h
      exact ⟨rfl, .inl underWay⟩
    next =>
      obtain ⟨past, -, h⟩ := of_bind h
      obtain ⟨backlogs, -, h⟩ := of_bind h
      simp only at h
      split at h
      next =>
        cases h
        exact ⟨rfl, .inl underWay⟩
      next ended =>
        cases h
        refine ⟨rfl, .inr ?_⟩
        exact (conclude_verdict _ _ _).resolve_left ended

theorem observeCommandEffects_underWay {nodeCode : String}
    (done : (observeCommandEffects env now nodeCode systemProduction commands).1 = .ok observed)
    (member : command ∈ commands) (underWay : command.status.underWay = true) :
    ∃ updated ∈ (observeCommandEffects env now nodeCode systemProduction commands).2,
      updated.identity = command.identity ∧ (updated.status.underWay = true ∨
        updated ∈ observed ∧ updated.verificationStatus.verdict.isSome = true) := by
  induction commands generalizing observed with
  | nil => exact absurd member List.not_mem_nil
  | cons first rest ih =>
    unfold observeCommandEffects at done ⊢
    by_cases idle : first.observable nodeCode = false
    · rw [if_pos idle] at done ⊢
      rcases List.mem_cons.mp member with rfl | later
      · exact ⟨command, List.mem_cons_self, rfl, .inl underWay⟩
      · obtain ⟨updated, left, moved⟩ := ih done later
        exact ⟨updated, List.mem_cons_of_mem _ left, moved⟩
    · rw [if_neg idle] at done ⊢
      cases called : env.verifier.observe env.store.builtins now first systemProduction with
      | error fault =>
        rw [called] at done
        cases done
      | ok reply =>
        rw [called] at done
        obtain ⟨result, updated⟩ := reply
        simp only at done ⊢
        have parts : ∃ later, (observeCommandEffects env now nodeCode systemProduction rest).1 =
            .ok later ∧ later ⊆ observed ∧ (result.status ≠ .notStarted → updated ∈ observed) := by
          split at done
          next same =>
            exact ⟨observed, done, List.Subset.refl _, fun other => absurd same other⟩
          next =>
            obtain ⟨later, ended, rfl⟩ := map_eq_ok.mp done
            exact ⟨later, ended, List.subset_cons_self _ _, fun _ => List.mem_cons_self⟩
        obtain ⟨later, ended, subset, own⟩ := parts
        rcases List.mem_cons.mp member with rfl | there
        · obtain ⟨same, moved⟩ := observe_underWay called underWay
          refine ⟨updated, List.mem_cons_self, same, moved.imp_right fun ended => ?_⟩
          exact ⟨own ended.1, ended.2⟩
        · obtain ⟨kept, left, same, moved⟩ := ih ended there
          refine ⟨kept, List.mem_cons_of_mem _ left, same, moved.imp_right fun ended => ?_⟩
          exact ⟨subset ended.1, ended.2⟩

theorem verdict_unbound {reached : VerificationStatus} (ended : reached.verdict = some verdict) :
    verdict.orderStatus ≠ .awaitingApproval ∧ verdict.orderStatus ≠ .dispatched := by
  cases reached <;> cases ended <;> exact ⟨by decide, by decide⟩

theorem bound_projected (observed : List NodeCommand)
    (distinct : (state.orders.map (·.orderId)).Nodup)
    (member : order ∈ (observed.foldl (ControlState.project env) state).orders)
    (bound : order.Bound) :
    order ∈ state.orders ∧ ∀ command ∈ observed,
      command.verificationStatus.verdict.isSome = true →
        command.carries env.store.builtins order.orderId = false := by
  induction observed generalizing state with
  | nil => exact ⟨member, List.forall_mem_nil _⟩
  | cons first rest ih =>
    rw [List.foldl_cons] at member
    cases ended : first.verificationStatus.verdict with
    | none =>
      have same : state.project env first = state := by rw [ControlState.project, ended]
      rw [same] at member
      obtain ⟨old, later⟩ := ih distinct member
      refine ⟨old, fun command there reached => ?_⟩
      rcases List.mem_cons.mp there with rfl | there
      · rw [ended] at reached
        cases reached
      · exact later command there reached
    | some verdict =>
      have same : state.project env first =
          updateDispatchControlStatus env.store.builtins first verdict state := by
        rw [ControlState.project, ended]
      rw [same] at member
      obtain ⟨moved, later⟩ := ih (by rw [update_ids]; exact distinct) member
      rcases mem_update distinct moved with ⟨-, reached⟩ | ⟨other, old⟩
      · obtain ⟨notAwaiting, notDispatched⟩ := verdict_unbound ended
        rcases bound with awaits | dispatched
        · exact absurd (reached.symm.trans awaits) notAwaiting
        · exact absurd (reached.symm.trans dispatched) notDispatched
      · refine ⟨old, fun command there reached => ?_⟩
        rcases List.mem_cons.mp there with rfl | there
        · exact other
        · exact later command there reached

theorem coupled_observed {nodeCode : String} (coupled : DispatchCoupled env.store.builtins state)
    (distinct : (state.orders.map (·.orderId)).Nodup)
    (done : (observeCommandEffects env now nodeCode systemProduction state.commands).1 =
      .ok observed) :
    DispatchCoupled env.store.builtins (observed.foldl (ControlState.project env) { state with
      commands := (observeCommandEffects env now nodeCode systemProduction state.commands).2 }) :=
    by
  intro order member bound
  obtain ⟨same, -⟩ := project_frame env observed { state with
    commands := (observeCommandEffects env now nodeCode systemProduction state.commands).2 }
  rw [same]
  obtain ⟨old, free⟩ := bound_projected observed (by exact distinct) member bound
  obtain ⟨command, there, backs⟩ := coupled order old bound
  rcases backs.2 with ⟨-, waits⟩ | ⟨-, underWay⟩
  · exact ⟨command, mem_observeCommandEffects there (by simp [NodeCommand.observable, waits]),
      backs⟩
  · obtain ⟨updated, left, identity, moved⟩ :=
      observeCommandEffects_underWay done there underWay
    rcases moved with still | ⟨reported, ended⟩
    · refine ⟨updated, left, backs.of_identity identity (.inr ⟨still, fun waits => ?_⟩)⟩
      rw [waits] at underWay
      cases underWay
    · have other := free updated reported ended
      rw [carries_of_identity identity, backs.1] at other
      cases other

theorem observe_legible
    (legible : command.Legible env.store.builtins env.verifier now systemProduction) :
    (env.verifier.observe env.store.builtins now command systemProduction).isOk = true := by
  unfold CommandVerifier.observe
  split
  next => rfl
  next continues =>
    split
    next => rfl
    next kind =>
      rw [not_or, not_not] at kind
      obtain ⟨past, backlogs, listed, read⟩ := legible (by simpa using continues) kind.1
      rw [listed]
      simp only [bind, Except.bind, read]
      split <;> rfl

theorem observeCommandEffects_isOk {nodeCode : String}
    (legible : ∀ command ∈ commands, command.observable nodeCode = true →
      command.Legible env.store.builtins env.verifier now systemProduction) :
    (observeCommandEffects env now nodeCode systemProduction commands).1.isOk = true := by
  induction commands with
  | nil => rfl
  | cons first rest ih =>
    rw [List.forall_mem_cons] at legible
    have ended := ih legible.2
    unfold observeCommandEffects
    split
    next => exact ended
    next observed =>
      have read := observe_legible (legible.1 (by simpa using observed))
      split
      next fault => rw [fault] at read; cases read
      next =>
        dsimp only
        split
        next => exact ended
        next =>
          cases later : (observeCommandEffects env now nodeCode systemProduction rest).1 with
          | ok => rfl
          | error => rw [later] at ended; cases ended

theorem coupled_submitted (coupled : DispatchCoupled builtins state) (input : AllocationOrderIn) :
    DispatchCoupled builtins (state.addAllocationOrder input) := by
  intro order member bound
  rcases of_mem_keepLast_append member with old | rfl
  · exact coupled order old bound
  · rcases bound with awaits | dispatched
    · cases awaits
    · cases dispatched

theorem coupled_created {request : CommandRequest}
    (coupled : DispatchCoupled env.store.builtins state)
    (bounded : state.commands.length ≤ commandCapacity)
    (meets : repeatedCommand env.store.builtins state.commands request = none →
      Spares env.store.builtins state fun command =>
        command.isOpen request.nodeCode request.commandType = true ∨
          command.leaves state.commands)
    (done : createCommand env.store.builtins state.commands now request =
      .ok (reply, commands')) :
    DispatchCoupled env.store.builtins { state with commands := commands' } := by
  rcases createCommand_cases done with ⟨-, same⟩ | ⟨fresh, ttlSeconds, -, appended⟩
  · rw [same]
    exact coupled
  · refine coupled_of_spared (by rfl) (meets fresh) fun command member spared => ?_
    rw [not_or] at spared
    rw [appended]
    exact mem_created bounded member (by simpa using spared.1) spared.2

theorem Backs.plain (backs : Backs builtins order command) :
    command.isAiSuggestionReview = false := by
  have governed := (source_of_carries backs.1).1
  by_contra review
  rw [isDispatchTargetRate_of_review (by simpa using review)] at governed
  cases governed

theorem coupled_reviewed {input : SuggestionInput} (sound : ControlSound env state)
    (coupled : DispatchCoupled env.store.builtins state)
    (meets : KeepsBacking env now state (.suggested input)) (review : input.needsReview = true)
    {created : List NodeCommand} {suggestions : List AiSuggestion}
    (done : createCommand env.store.builtins state.commands now (input.request env state) =
      .ok (reply, created))
    (kept : input.Stored now state reply.1.id ("ais_" ++ env.token state.tokens) created
      commands' suggestions) :
    DispatchCoupled env.store.builtins { state with
      tokens := state.tokens + 1, commands := commands', suggestions := suggestions } := by
  have first : DispatchCoupled env.store.builtins { state with commands := created } := by
    refine coupled_created coupled sound.commands.bounded (fun _ order member bound => ?_) done
    obtain ⟨command, there, backs, stays⟩ := meets review order member bound
    refine ⟨command, there, backs, fun lost => ?_⟩
    rcases lost with replaced | leaves
    · have kind : command.commandType = "review_ai_recommendation" := by
        simp only [NodeCommand.isOpen, Bool.and_eq_true, decide_eq_true_eq] at replaced
        exact replaced.1.2
      have plain := backs.plain
      rw [(sound.reviews command there).kind.mp kind] at plain
      cases plain
    · exact stays leaves
  cases kept with
  | stored | left => exact first
  | withdrawn cancelled =>
    intro order member bound
    obtain ⟨command, there, backs⟩ := first order member bound
    obtain ⟨own, present, named, ai, -⟩ :=
      rowFollows_reviewed sound review done "" reply.1.id rfl
    obtain ⟨target, settles, -⟩ := cancel_settles cancelled
    have id := settles.id
    have updated := congrArg CommandIdentity.id settles.same
    simp only [NodeCommand.identity] at updated
    refine ⟨command, ?_, backs⟩
    rw [settles.stored]
    refine mem_storeCommand_of_ne (by rw [updated, id]; exact settles.found) there fun same => ?_
    have increasing := (commandsSound_created sound.commands done).increasing
    have twin : command = own := eq_of_increasing increasing there present (by omega)
    have plain := backs.plain
    rw [twin, ai] at plain
    cases plain

section Dispatches

variable {later : ControlState} {left : List NodeCommand} {made issues : List DispatchIssue}
  {issue : DispatchIssue}

/-- What commands for the nodes make of an earlier command. -/
def Remains (made : List DispatchIssue) (command left : NodeCommand) : Prop :=
  left.identity = command.identity ∧
    ((∀ issue ∈ made, command.isOpen issue.nodeCode "set_target_rate" = false) → left = command)

structure CommandControlService.DispatchIssue.Awaited (builtins : Builtins) (issue : DispatchIssue)
    (command : NodeCommand) : Prop where
  node : command.nodeCode = issue.nodeCode
  waits : command.status = .waitingApproval
  carries : command.carries builtins issue.orderId = true

/-- The list after the dispatches have created their commands. -/
def DispatchesMade (builtins : Builtins) (commands : List NodeCommand)
    (made : List DispatchIssue) (left : List NodeCommand) : Prop :=
  ∃ old new, List.Forall₂ (Remains made) commands old ∧
    List.Forall₂ (·.Awaited builtins) made new ∧ left = keepLast commandCapacity (old ++ new)

theorem freshIssues_subset (created : Nat) :
    freshIssues builtins commands created issues ⊆ issues := by
  induction issues generalizing created with
  | nil => exact List.Subset.refl _
  | cons issue rest ih =>
    unfold freshIssues
    split
    next => exact List.subset_cons_of_subset _ (ih created)
    next => exact List.cons_subset_cons _ (ih (created + 1))

theorem DispatchesMade.stays (dispatches : DispatchesMade builtins commands made left)
    (member : command ∈ keepLast (commandCapacity - made.length) commands)
    (spared : ∀ issue ∈ made, command.isOpen issue.nodeCode "set_target_rate" = false) :
    command ∈ left := by
  obtain ⟨old, new, remains, awaited, rfl⟩ := dispatches
  obtain ⟨same, there, -, kept⟩ := exists_right_of_forall₂ (forall₂_keepLast _ remains) member
  rw [keepLast_append_right, ← awaited.length_eq, ← kept spared]
  exact List.mem_append_left _ there

theorem DispatchesMade.waits (dispatches : DispatchesMade builtins commands made left)
    (some : made ≠ []) :
    ∃ command ∈ left, ∃ issue ∈ made, issue.Awaited builtins command := by
  obtain ⟨old, new, -, awaited, rfl⟩ := dispatches
  rcases List.eq_nil_or_concat' new with rfl | ⟨earlier, last, rfl⟩
  · exact absurd (List.forall₂_nil_right_iff.mp awaited) some
  · refine ⟨last, ?_, exists_left_of_forall₂ awaited (List.mem_append_right _ (by simp))⟩
    rw [← List.append_assoc]
    exact mem_keepLast_append 99 _ last

theorem isOpen_of_apart {command : NodeCommand} {nodeCode commandType : String}
    (apart : command.nodeCode ≠ nodeCode) : command.isOpen nodeCode commandType = false := by
  unfold NodeCommand.isOpen
  simp [apart]

theorem DispatchesMade.repeated (dispatches : DispatchesMade builtins commands made left)
    (apart : issue.nodeCode ∉ made.map (·.nodeCode)) :
    repeatedCommand builtins left issue.targetRateIssue.request = none ↔
      repeatedCommand builtins (keepLast (commandCapacity - made.length) commands)
        issue.targetRateIssue.request = none := by
  obtain ⟨old, new, remains, awaited, rfl⟩ := dispatches
  unfold repeatedCommand
  dsimp only
  split
  next => rfl
  next =>
    rw [keepLast_append_right, List.find?_append, ← awaited.length_eq, Option.or_eq_none_iff]
    have none : (keepLast commandCapacity new).find? (fun command =>
        decide (command.nodeCode = issue.targetRateIssue.request.nodeCode) &&
          decide (command.commandType = issue.targetRateIssue.request.commandType) &&
          (command.parameters.get "idempotency_key").isText (builtins.text
            ((issue.targetRateIssue.request.parameters.get "idempotency_key").or (.str "")))) =
        none := by
      rw [List.find?_eq_none]
      intro command member
      obtain ⟨other, there, own⟩ := exists_left_of_forall₂ awaited (mem_of_mem_keepLast member)
      have ne : command.nodeCode ≠ issue.nodeCode := fun same =>
        apart (List.mem_map.mpr ⟨other, there, own.node.symm.trans same⟩)
      have ne : command.nodeCode ≠ issue.targetRateIssue.request.nodeCode := ne
      simp [ne]
    rw [none, and_iff_left rfl]
    simp only [List.find?_eq_none]
    have remains := forall₂_keepLast (commandCapacity - made.length) remains
    constructor
    · intro unused command member
      obtain ⟨same, there, identity, -⟩ := exists_right_of_forall₂ remains member
      have free := unused same there
      simp only [NodeCommand.identity, CommandIdentity.mk.injEq] at identity
      rwa [identity.2.1, identity.2.2.1, identity.2.2.2.2.1] at free
    · intro unused same member
      obtain ⟨command, there, identity, -⟩ := exists_left_of_forall₂ remains member
      simp only [NodeCommand.identity, CommandIdentity.mk.injEq] at identity
      rw [identity.2.1, identity.2.2.1, identity.2.2.2.2.1]
      exact unused command there

theorem awaited_created (request : CommandRequest) (id : Nat) (ttlSeconds : Int)
    (same : request.parameters = issue.targetRateIssue.request.parameters)
    (node : request.nodeCode = issue.nodeCode) (waits : request.status = .waitingApproval) :
    issue.Awaited builtins (request.command now id ttlSeconds) := by
  refine ⟨node, waits, ?_⟩
  unfold NodeCommand.carries NodeCommand.isDispatchTargetRate NodeCommand.sourceOrderId
    CommandRequest.command CommandRequest.keyed
  dsimp only
  rw [same, Fields.get_setDefault_of_ne _ _ (by decide),
    Fields.get_setDefault_of_ne _ _ (by decide)]
  have kind : (issue.targetRateIssue.request.parameters.get "workflow_kind") =
    .str "dispatch_target_rate" := rfl
  have source : (issue.targetRateIssue.request.parameters.get "source_order_id") =
    .str issue.orderId := rfl
  rw [kind, source]
  by_cases empty : issue.orderId = "" <;>
    simp [Json.isText, Json.or, Json.truthy, Builtins.text, empty]

theorem DispatchesMade.create (dispatches : DispatchesMade builtins commands made left)
    (apart : issue.nodeCode ∉ made.map (·.nodeCode)) (replacementId : Nat)
    (awaited : issue.Awaited builtins command) :
    DispatchesMade builtins commands (made ++ [issue]) (keepLast commandCapacity
      ((supersedePending left now issue.nodeCode "set_target_rate" replacementId).2 ++
        [command])) := by
  obtain ⟨old, new, remains, others, rfl⟩ := dispatches
  refine ⟨old.map fun command => if command.isOpen issue.nodeCode "set_target_rate" then
    command.supersede now replacementId else command, new ++ [command], ?_,
    List.rel_append others (.cons awaited .nil), ?_⟩
  · rw [List.forall₂_map_right_iff]
    refine remains.imp fun earlier left ⟨identity, kept⟩ => ⟨?_, fun spared => ?_⟩
    · rw [← identity]
      split <;> rfl
    · have same := kept fun other member => spared other (List.mem_append_left _ member)
      rw [same, if_neg (by simp [spared issue (List.mem_append_right _ (by simp))])]
  · unfold supersedePending
    dsimp only
    rw [keepLast_map, keepLast_keepLast_append, List.map_append, ← List.append_assoc]
    congr 3
    refine (List.map_congr_left fun other member => ?_).trans (List.map_id new)
    obtain ⟨first, there, own⟩ := exists_left_of_forall₂ others member
    rw [isOpen_of_apart fun same => apart (List.mem_map.mpr ⟨first, there, own.node ▸ same⟩)]
    rfl

theorem issueEach_made {replies : List NodeCommand}
    (apart : ((made ++ issues).map (·.nodeCode)).Nodup)
    (dispatches : DispatchesMade env.store.builtins commands made state.commands)
    (done : issueEach env now issues state = .ok replies later) :
    later.orders = state.orders ∧ DispatchesMade env.store.builtins commands
      (made ++ freshIssues env.store.builtins commands made.length issues) later.commands := by
  induction issues generalizing state made replies with
  | nil =>
    cases done
    rw [freshIssues, List.append_nil]
    exact ⟨rfl, dispatches⟩
  | cons issue rest ih =>
    obtain ⟨command, mid, first, done⟩ := Procedure.of_bind done
    obtain ⟨others, end_, answered, done⟩ := Procedure.of_bind done
    cases done
    have ne : issue.nodeCode ∉ made.map (·.nodeCode) := by
      rw [List.map_append, List.nodup_append] at apart
      exact fun member => apart.2.2 _ member _ List.mem_cons_self rfl
    obtain ⟨-, orders, transitions, created, made_⟩ := issue_ok first
    rw [freshIssues]
    rcases createCommand_cases made_ with ⟨repeated, same⟩ | ⟨fresh, ttlSeconds, own, grown⟩
    · have used : repeatedCommand env.store.builtins (keepLast (commandCapacity - made.length)
          commands) issue.targetRateIssue.request ≠ none := by
        rw [Ne, ← dispatches.repeated ne]
        exact fun none => by cases none.symm.trans repeated
      obtain ⟨earlier, used⟩ := Option.ne_none_iff_exists'.mp used
      rw [used]
      have apart := apart.sublist
        ((List.Sublist.append_left (List.sublist_cons_self issue rest) made).map _)
      obtain ⟨kept, dispatches⟩ := ih apart (same ▸ dispatches) answered
      exact ⟨kept.trans orders, dispatches⟩
    · rw [(dispatches.repeated ne).mp fresh]
      have awaited : issue.Awaited env.store.builtins command := by
        dsimp only at own
        rw [own]
        exact awaited_created _ _ _ rfl rfl rfl
      have apart : ((made ++ [issue] ++ rest).map (·.nodeCode)).Nodup := by simpa using apart
      obtain ⟨kept, dispatches⟩ := ih apart (grown ▸ dispatches.create ne _ awaited) answered
      rw [List.length_append, List.append_assoc] at dispatches
      exact ⟨kept.trans orders, dispatches⟩

theorem waits_proposal {order : AllocationOrder} {nodeCode : String}
    (bounded : state.commands.length ≤ commandCapacity)
    (proposed : Proposed env state order nodeCode issues)
    (backs : BacksProposal env.store.builtins state order issues)
    (dispatches : DispatchesMade env.store.builtins state.commands
      (freshIssues env.store.builtins state.commands 0 issues) left) :
    ∃ command ∈ left, command.carries env.store.builtins order.orderId = true ∧
      command.status = .waitingApproval := by
  by_cases fresh : freshIssues env.store.builtins state.commands 0 issues = []
  · obtain ⟨command, there, waits⟩ := backs.own.resolve_left (fun some => some fresh)
    rw [fresh] at dispatches
    refine ⟨command, dispatches.stays ?_ (List.forall_mem_nil _), waits⟩
    rwa [List.length_nil, Nat.sub_zero, keepLast_of_length_le bounded]
  · obtain ⟨command, there, issue, created, awaited⟩ := dispatches.waits fresh
    have source := proposed.source issue (freshIssues_subset _ created)
    exact ⟨command, there, source ▸ awaited.carries, awaited.waits⟩

theorem coupled_issued {order : AllocationOrder} {nodeCode : String} {replies : List NodeCommand}
    (bounded : state.commands.length ≤ commandCapacity)
    (distinct : (state.orders.map (·.orderId)).Nodup)
    (proposed : Proposed env state order nodeCode issues)
    (backs : BacksProposal env.store.builtins state order issues)
    (done : issueEach env now issues state = .ok replies later) :
    DispatchCoupled env.store.builtins
      (later.setOrderStatus order.orderId .awaitingApproval) := by
  have start : DispatchesMade env.store.builtins state.commands [] state.commands :=
    ⟨state.commands, [], List.forall₂_same.mpr fun _ _ => ⟨rfl, fun _ => rfl⟩, .nil, by
      rw [List.append_nil, keepLast_of_length_le bounded]⟩
  have apart : (issues.map (·.nodeCode)).Nodup := proposed.nodes ▸ nodup_taskNodes _
  obtain ⟨kept, dispatches⟩ := issueEach_made (by exact apart) start done
  rw [List.nil_append, List.length_nil] at dispatches
  rw [← kept] at distinct
  intro other member bound
  rcases mem_setStatus distinct member with ⟨own, awaits⟩ | ⟨apart, old⟩
  · obtain ⟨command, there, carries, waits⟩ := waits_proposal bounded proposed backs dispatches
    exact ⟨command, there, by rw [own]; exact carries, .inl ⟨awaits, waits⟩⟩
  · rw [kept] at old
    obtain ⟨command, there, backing, spared⟩ := backs.others other old apart bound
    exact ⟨command, dispatches.stays there spared, backing⟩

theorem issueEach_readOnly
    (readOnly : env.store.settings.controlMode = .readOnly) (some : issues ≠ []) :
    ∃ fault later, issueEach env now issues state = .error fault later ∧
      later.commands = state.commands ∧ later.orders = state.orders := by
  cases issues with
  | nil => exact absurd rfl some
  | cons issue rest =>
    rw [issueEach_cons]
    cases first : issueDispatchTargetRate env now issue state with
    | ok command mid => exact absurd readOnly (issue_enabled first)
    | error fault mid => exact ⟨fault, mid, bind_error first, issue_error first⟩

theorem coupled_proposed {actor : ActorInfo} {nodeCode : String}
    (coupled : DispatchCoupled env.store.builtins state)
    (bounded : state.commands.length ≤ commandCapacity)
    (distinct : (state.orders.map (·.orderId)).Nodup)
    (keeps : ControlCall.KeepsOrders env state ⟨now, .proposeTargetRates actor orderId nodeCode⟩) :
    DispatchCoupled env.store.builtins
      (after (proposeTargetRates env now actor orderId nodeCode) state) := by
  unfold proposeTargetRates
  rw [after_get_bind]
  cases proposes : proposal env actor orderId nodeCode state with
  | error fault =>
    rw [after_bind_error (lift_error rfl)]
    exact coupled
  | ok asked =>
    obtain ⟨order, issues⟩ := asked
    have proposed := (proposal_ok proposes).2
    rw [after_bind_ok (lift_ok rfl)]
    dsimp only
    have refused : ∀ {fault later}, issueEach env now issues state = .error fault later →
        later.commands = state.commands ∧ later.orders = state.orders →
        DispatchCoupled env.store.builtins (after (issueEach env now issues >>= fun commands =>
          modify (·.setOrderStatus order.orderId .awaitingApproval) >>= fun _ =>
            pure commands) state) := by
      intro fault later failed same
      rw [after_bind_error failed]
      intro other member bound
      rw [same.2] at member
      rw [same.1]
      exact coupled other member bound
    by_cases readOnly : env.store.settings.controlMode = .readOnly
    · obtain ⟨fault, later, failed, same⟩ := issueEach_readOnly readOnly proposed.issued
      exact refused failed same
    · have backs := keeps readOnly order issues proposes
      cases issued : issueEach env now issues state with
      | error fault later =>
        exact refused issued (issueEach_error (fun issue member => ⟨backs.known issue member, by
          rw [proposed.rate issue member]
          exact proposed.capacity issue member⟩) issued)
      | ok replies later =>
        rw [after_bind_ok issued]
        exact coupled_issued bounded distinct proposed backs issued

end Dispatches

structure CouplingHolds (env : ControlEnv) (state : ControlState) : Prop where
  sound : ControlSound env state
  orders : OrdersSound state
  coupled : DispatchCoupled env.store.builtins state

theorem couplingHolds_step (meets : KeepsBacking env now state event)
    (step : GovernedStep env now state event state') (holds : CouplingHolds env state) :
    CouplingHolds env state' := by
  refine ⟨controlSound_step step holds.sound, ordersSound_step step holds.orders, ?_⟩
  obtain ⟨sound, numbered, coupled⟩ := holds
  cases step with
  | elsewhere commands orders =>
    intro order member bound
    rw [orders] at member
    rw [commands]
    exact coupled order member bound
  | recorded | suggested => exact coupled
  | awaiting => cases meets
  | submitted input => exact coupled_submitted coupled input
  | created issued done => exact coupled_created coupled sound.commands.bounded meets done
  | reviewed review done kept => exact coupled_reviewed sound coupled meets review done kept
  | settled found same status permitted =>
    exact coupled_settled coupled sound.commands.increasing numbered.distinct found same status
      permitted
  | @retried source actor _ _ found node _ done =>
    obtain ⟨-, created, done⟩ := retry_created found done
    refine coupled_created coupled sound.commands.bounded (fun _ order member bound => ?_) done
    obtain ⟨command, there, backs, stays⟩ := meets order member bound
    exact ⟨command, there, backs, fun lost => stays (lost.imp_left fun replaced =>
      ⟨source, found, replaced⟩)⟩
  | claimed nodeCode agentId =>
    intro order member bound
    obtain ⟨command, there, backs⟩ := coupled order member bound
    refine ⟨_, List.mem_map.mpr ⟨command, there, rfl⟩, ?_⟩
    split
    next open_ =>
      rw [Bool.and_eq_true] at open_
      refine backs.of_identity rfl (.inr ⟨rfl, fun waits => ?_⟩)
      rw [waits] at open_
      cases open_.2
    next => exact backs
  | expired =>
    exact coupled_of_spared (by rfl) meets fun command member fresh =>
      mem_movedWhere member (by simpa using fresh)
  | resulted done => exact coupled_resulted coupled meets done
  | observed done => exact coupled_observed coupled numbered.distinct done
  | @interrupted nodeCode systemProduction _ failed =>
    have ended := observeCommandEffects_isOk meets
    rw [failed] at ended
    cases ended

theorem couplingHolds_perform {call : ControlCall} (keeps : call.KeepsOrders env state)
    (holds : CouplingHolds env state) : CouplingHolds env (after (call.perform env) state) := by
  have traced : call.Meets env (KeepsBacking env) state →
      CouplingHolds env (after (call.perform env) state) := fun meets =>
    trace_invariant (fun _ _ _ meets step => couplingHolds_step meets step) meets holds
  obtain ⟨now, operation⟩ := call
  cases operation with
  | proposeTargetRates actor orderId nodeCode =>
    have reached := @perform_reaches env state ⟨now, .proposeTargetRates actor orderId nodeCode⟩
    refine ⟨?_, ?_, ?_⟩
    · exact trace_invariant (fun _ _ _ _ step => controlSound_step step) reached holds.sound
    · exact trace_invariant (fun _ _ _ _ step => ordersSound_step step) reached holds.orders
    · have same : after ((⟨now, .proposeTargetRates actor orderId nodeCode⟩ : ControlCall).perform
          env) state = after (proposeTargetRates env now actor orderId nodeCode) state :=
        after_bind_pure _ _
      rw [same]
      exact coupled_proposed holds.coupled holds.sound.commands.bounded holds.orders.distinct keeps
  | _ => exact traced keeps

/-- In every run in which no bound order loses its last command, the orders and their commands
stay coupled. -/
theorem dispatch_coupled_run (env : ControlEnv) (state : ControlState)
    (empty : state.commands = [] ∧ state.orders = []) (calls : List ControlCall)
    (along : (governanceAuthority env).Along (ControlCall.KeepsOrders env) state calls) :
    DispatchCoupled env.store.builtins ((governanceAuthority env).run state calls) := by
  have none (order : AllocationOrder) : order ∉ state.orders := by
    rw [empty.2]
    exact List.not_mem_nil
  have start : CouplingHolds env state := by
    refine ⟨⟨by rw [empty.1]; exact commandsSound_nil, ?_⟩, ⟨?_, ?_⟩, ?_⟩
    · rw [empty.1]
      exact List.forall_mem_nil _
    · rw [empty.2]
      exact List.nodup_nil
    · exact fun order member => absurd member (none order)
    · exact fun order member => absurd member (none order)
  refine (Authority.invariant_along (fun {_ call _ _} holds keeps served => ?_) start along).coupled
  cases served
  exact couplingHolds_perform keeps holds

def sampleSubmitted : ControlState :=
  (governanceAuthority sampleControlEnv).run sampleControlState [sampleSubmit]

theorem proposal_keepsOrders {actor : ActorInfo} {nodeCode : String}
    (checked : ((proposal env actor orderId nodeCode state).toOption.all fun asked =>
      decide (BacksProposal env.store.builtins state asked.1 asked.2)) = true) :
    ControlCall.KeepsOrders env state ⟨now, .proposeTargetRates actor orderId nodeCode⟩ := by
  intro _ order issues proposes
  rw [proposes] at checked
  exact of_decide_eq_true checked

/-- An order is submitted and proposed, and proposed again. -/
theorem dispatch_coupled_sample :
    ((governanceAuthority sampleControlEnv).run sampleControlState
        [sampleSubmit, samplePropose, samplePropose]).orders.map (·.status) =
      [.awaitingApproval] ∧
      DispatchCoupled sampleBuiltins
        ((governanceAuthority sampleControlEnv).run sampleControlState
          [sampleSubmit, samplePropose, samplePropose]) := by
  refine ⟨by decide +kernel, dispatch_coupled_run sampleControlEnv sampleControlState ⟨rfl, rfl⟩
    [sampleSubmit, samplePropose, samplePropose] ⟨?_, ?_, ?_, trivial⟩⟩
  · exact (GovernedStep.submitted _).trace trivial
  · exact proposal_keepsOrders (by decide +kernel)
  · exact proposal_keepsOrders (by decide +kernel)

def sampleOverride (nodeCode : String) : ControlCall :=
  ⟨0, .issueTargetRate nodeCode (1 / 2) sampleAdmin⟩

/-- New rates for both nodes replace the commands of a proposal, and its order still awaits their
approval. -/
theorem superseded_order_awaits :
    ¬ DispatchCoupled sampleBuiltins
      ((governanceAuthority sampleControlEnv).run sampleControlState
        [sampleSubmit, samplePropose, sampleOverride "turning-workshop-01",
          sampleOverride "milling-workshop-01"]) := by
  intro coupled
  have awaits : ∃ order ∈ ((governanceAuthority sampleControlEnv).run sampleControlState
      [sampleSubmit, samplePropose, sampleOverride "turning-workshop-01",
        sampleOverride "milling-workshop-01"]).orders, order.status = .awaitingApproval := by
    decide +kernel
  have replaced : ∀ command ∈ ((governanceAuthority sampleControlEnv).run sampleControlState
      [sampleSubmit, samplePropose, sampleOverride "turning-workshop-01",
        sampleOverride "milling-workshop-01"]).commands, command.status ≠ .waitingApproval := by
    decide +kernel
  obtain ⟨order, member, awaits⟩ := awaits
  obtain ⟨command, there, backs⟩ := coupled order member (.inl awaits)
  rcases backs.2 with ⟨-, waits⟩ | ⟨dispatched, -⟩
  · exact replaced command there waits
  · rw [awaits] at dispatched
    cases dispatched

end MiniOgas
