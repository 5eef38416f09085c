import MiniOgas.AgentExecution
import MiniOgas.WorkshopInterface

namespace MiniOgas

open Procedure Serial

/-- The fields of `ActorInfo` that the control services read. -/
structure ActorInfo where
  principalId : String := ""
  principalType : String := "human"
  username : String := ""
  displayName : String := ""
  role : String

def actorIdentity (actor : ActorInfo) : String :=
  if actor.principalId ≠ "" then actor.principalId
  else if actor.username ≠ "" then actor.username
  else if actor.displayName ≠ "" then actor.displayName
  else actor.role

/-- `planned` and `completed` are read, and nothing here writes them. -/
inductive OrderStatus where
  | received
  | planned
  | awaitingApproval
  | dispatched
  | inProgress
  | blocked
  | rejected
  | cancelled
  | completed
deriving DecidableEq

structure AllocationOrder where
  orderId : String
  productCode : String
  requiredQuantity : Nat
  priority : Nat
  deadlineHours : Nat
  status : OrderStatus := .received
deriving DecidableEq

structure ProductionPlan where
  productCode : String
  targetQuantity : Nat
  priority : Nat
  route : List String := []

inductive SuggestionStatus where
  | submitted
  | pendingHumanReview
  | accepted
  | rejected
deriving DecidableEq

structure AiSuggestion where
  suggestionId : String
  principalId : String
  nodeCode : String
  riskLevel : String
  recommendation : String
  evidence : Fields
  status : SuggestionStatus
  commandId : Option Nat

/-- A decision that `record_safety_decision` has written, with the command and the confirmation
code that the review was about. -/
structure RecordedDecision where
  decision : SafetyDecision
  about : Option Nat := none
  confirmationCode : Option String := none

/-- The part of `MemoryStore` that commands are governed by, and the rows of `ai_suggestions`;
`tokens` counts the calls of `secrets.token_urlsafe`. -/
structure ControlState where
  store : MemoryStore
  commands : List NodeCommand
  orders : List AllocationOrder
  orderSeq : Nat
  plans : List ProductionPlan
  tasks : List DispatchTask
  suggestions : List AiSuggestion
  tokens : Nat
  decisions : List RecordedDecision

def ControlState.empty : ControlState := ⟨.empty, [], [], 0, [], [], [], 0, []⟩

/-- `secrets.token_urlsafe` yields the texts of `token` one after another, never one twice. -/
structure ControlEnv where
  store : StoreEnv
  verifier : CommandVerifier
  commandClaimTimeoutSeconds : Int
  token : Nat → String
  distinct : Function.Injective token

inductive ServiceFault where
  | http (statusCode : Nat) (detail : Json)
  | control (fault : ControlFault)
  | database

abbrev ControlProcedure (α : Type) := Procedure ServiceFault ControlState α

/-- `decision.model_dump(mode="json")`. -/
def SafetyDecision.dump (decision : SafetyDecision) : Json :=
  .obj [("allow", .bool decision.allow), ("requires_human", .bool decision.requiresHuman),
    ("confirmation_required", .bool decision.confirmationRequired),
    ("reason_code", .str decision.reasonCode), ("message", .str decision.message),
    ("action", .str decision.action), ("target_node", .str decision.targetNode),
    ("risk_level", .str decision.riskLevel), ("actor_role", .str decision.actorRole),
    ("actor_id", .str decision.actorId), ("run_mode", .str decision.runMode)]

def NodeCommand.isAiSuggestionReview (command : NodeCommand) : Bool :=
  (command.parameters.get "workflow_kind").isText "ai_suggestion_review"

def NodeCommand.isDispatchTargetRate (command : NodeCommand) : Bool :=
  (command.parameters.get "workflow_kind").isText "dispatch_target_rate"

def Json.isDict : Json → Bool
  | .obj _ => true
  | _ => false

section Reads

variable (builtins : Builtins) (store : MemoryStore)

/-- `float(fields.get(key) or 0)`. -/
def capacityField (fields : Fields) (key : String) : Option ℚ :=
  builtins.float ((fields.get key).or (.int 0))

def reportedPhysicalRateLimitPerMinute (nodeCode : String) : Option ℚ :=
  let production := (((store.nodeHeartbeatsV2.get? nodeCode).getD []).get "production").dict
  let nominal := (capacityField builtins production "nominal_capacity_per_hour").getD 0
  if 0 < nominal then some (nominal / 60)
  else do
    let machineCount ← capacityField builtins production "machine_count"
    let processTimeSec ← capacityField builtins production "process_time_sec"
    if machineCount ≤ 0 ∨ processTimeSec ≤ 0 then none
    else some (machineCount * 3600 / processTimeSec / 60)

def verificationBaseline : List (String × Fields) :=
  store.nodeHeartbeatsV2.items.filterMap fun item =>
    if (item.2.get "production").isDict then some (item.1, (item.2.get "production").dict)
    else none

end Reads

/-- An operation of `CommandManager` on the commands of the store. -/
def onCommands {α : Type} (f : List NodeCommand → Except ControlFault (α × List NodeCommand)) :
    ControlProcedure α :=
  transact fun state =>
    match f state.commands with
    | .ok (a, commands) => .ok (a, { state with commands := commands })
    | .error fault => .error (.control fault)

def addCommand (env : ControlEnv) (now : Timestamp) (request : CommandRequest) :
    ControlProcedure NodeCommand := do
  let state ← get
  let created ← onCommands fun commands => createCommand env.store.builtins commands now
    { request with verificationBaseline := verificationBaseline state.store }
  return created.1

def recordSafetyDecision (recorded : RecordedDecision) : ControlProcedure Unit :=
  modify fun state => { state with decisions := state.decisions ++ [recorded] }

def requireAllowed (decision : SafetyDecision) : ControlProcedure Unit :=
  lift (check (decision.allow = true) (.http 409
    (.obj [("error", .str decision.reasonCode), ("safety", decision.dump)])))

/-- What `update_dispatch_control_status` is told of a command; `partlyEffective` is
`partial`. -/
inductive DispatchVerdict where
  | approved
  | effective
  | partlyEffective
  | failed
  | inconclusive
  | rejected
  | cancelled
deriving DecidableEq

def DispatchVerdict.orderStatus : DispatchVerdict → OrderStatus
  | .approved => .dispatched
  | .effective => .inProgress
  | .partlyEffective => .inProgress
  | .failed => .blocked
  | .inconclusive => .blocked
  | .rejected => .rejected
  | .cancelled => .cancelled

def DispatchVerdict.taskStatus : DispatchVerdict → Option String
  | .approved => none
  | .effective => some "in_progress"
  | .partlyEffective => some "in_progress"
  | .failed => some "blocked"
  | .inconclusive => some "blocked"
  | .rejected => some "blocked"
  | .cancelled => some "blocked"

/-- `int(value)`, when it is a number or a text of digits. -/
def Json.taskId : Json → Option Int
  | .int n => some n
  | .bool b => some (if b then 1 else 0)
  | .str s => if s.toList.all Char.isDigit then s.toNat?.map Int.ofNat else none
  | _ => none

def NodeCommand.taskIds (command : NodeCommand) : List Int :=
  (command.parameters.get "dispatch_task_ids").list.filterMap Json.taskId

def NodeCommand.sourceOrderId (builtins : Builtins) (command : NodeCommand) : String :=
  builtins.text ((command.parameters.get "source_order_id").or (.str ""))

def ControlState.setOrderStatus (state : ControlState) (orderId : String)
    (status : OrderStatus) : ControlState :=
  { state with
    orders := Bounded.modifyFirst (fun order => order.orderId = orderId)
      (fun order => { order with status := status }) state.orders }

def ControlState.setTaskStatus (state : ControlState) (taskIds : List Int) (status : String) :
    ControlState :=
  { state with tasks := state.tasks.map fun task =>
      if task.id ∈ taskIds then { task with status := status } else task }

def updateDispatchControlStatus (builtins : Builtins) (command : NodeCommand)
    (verdict : DispatchVerdict) (state : ControlState) : ControlState :=
  if command.isDispatchTargetRate then
    let state := state.setOrderStatus (command.sourceOrderId builtins) verdict.orderStatus
    match verdict.taskStatus with
    | none => state
    | some status => state.setTaskStatus command.taskIds status
  else state

end MiniOgas
