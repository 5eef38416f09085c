import MiniOgas.CommandTables
import MiniOgas.BoundedList
import MiniOgas.Dictionary
import MiniOgas.Procedure
import Mathlib.Data.List.Infix

namespace MiniOgas

/-- The `route` of each of `PRODUCTS`. -/
def products : List (String × List String) :=
  [("P1", ["turning", "grinding"]), ("P2", ["turning", "milling"]),
    ("P3", ["turning", "milling", "grinding"]), ("P4", ["turning", "grinding"]),
    ("P5", ["milling", "grinding"])]

def productAliases : List (String × String) :=
  [("A1", "P1"), ("A2", "P2"), ("A3", "P3"), ("A4", "P4"), ("A5", "P5")]

def processWorkshop : List (String × String) :=
  [("turning", "turning"), ("milling", "milling"), ("grinding", "grinding"),
    ("drilling", "milling")]

def workshopNames : List (String × String) :=
  [("turning", "车削车间"), ("milling", "铣削车间"), ("grinding", "磨削车间"), ("cloud", "云协同节点"),
    ("database", "云数据库节点")]

def canonicalProductCode (productCode : String) : String :=
  (productAliases.lookup productCode).getD productCode

def productRoute (productCode : String) : List String :=
  (products.lookup (canonicalProductCode productCode)).getD ["turning", "inspection"]

inductive NodeStatus where
  | online
  | offline
  | degraded
  | isolated
deriving DecidableEq

structure Node where
  nodeCode : String
  nodeName : String
  workshopType : String
  status : NodeStatus := .online
  lastHeartbeat : Timestamp

structure Machine where
  machineCode : String
  nodeCode : String
  machineType : String
  status : String := "running"
  loadRate : ℚ := 0
  toolWearLevel : ℚ := 0
  todayOutput : Int := 0
  defectCount : Int := 0

/-- A `float` field with `ge=0` and `le=100`. -/
abbrev Percentage := { q : ℚ // 0 ≤ q ∧ q ≤ 100 }

structure MetricIn where
  nodeCode : String
  workshopType : Option String
  cpuUsage : Percentage
  memoryUsage : Percentage
  diskUsage : Percentage
  networkIn : Nat
  networkOut : Nat
  dbLatencyMs : Nat
  apiLatencyMs : Nat
  finishedQuantity : Nat
  defectQuantity : Nat

inductive PartStatus where
  | ready
  | claimed
  | completed
deriving DecidableEq

def PartStatus.text : PartStatus → String
  | .ready => "ready"
  | .claimed => "claimed"
  | .completed => "completed"

structure PartQueueItem where
  partId : String
  runId : String
  scenarioId : String
  batchId : String
  parentPartId : String
  orderId : String
  productCode : String
  currentStep : String
  currentOperation : String
  nextOperation : String
  qualityStatus : String := "pending"
  eventSequence : Nat := 1
  status : PartStatus := .ready
  sourceNode : String
  targetNode : String
  claimedBy : String := ""
  claimToken : String := ""
  claimExpiresAt : Option Timestamp := none
  createdAt : Timestamp
  updatedAt : Timestamp

inductive ControlMode where
  | readOnly
  | operatorAssisted
  | controlledWrite
deriving DecidableEq

/-- The part of `settings` that the node and part operations read. -/
structure StoreSettings where
  controlMode : ControlMode
  heartbeatTimeoutSeconds : Int
  expectedProductionNodes : List String

/-- What the operations of the store use besides its state: `uuid` has the texts that
`uuid.uuid4` yields one after another. -/
structure StoreEnv where
  builtins : Builtins
  settings : StoreSettings
  sessionToken : String
  uuid : Nat → String

/-- What the operations of the store raise; `conversionError` is what `int` and `float` raise on
a text that is no number, `overflowError` on a number that is too large and `typeError` on
anything else, and `validationError` what a model does. -/
inductive StoreFault where
  | valueError (message : String)
  | conversionError
  | validationError
  | typeError
  | overflowError
  | keyError (key : String)
  | permissionError (message : String)

/-- The faults that are a `ValueError`. -/
def StoreFault.isValueError : StoreFault → Bool
  | .valueError _ | .conversionError | .validationError => true
  | _ => false

/-- The part of `MemoryStore` that node telemetry and the part queue use: `partRows` has the
rows that `persist_part_queue_item` writes, in order, and `uuids` counts the calls of
`uuid.uuid4`. -/
structure MemoryStore where
  nodes : Dictionary String Node
  machines : List Machine
  metrics : List MetricIn
  nodeHeartbeatsV2 : Dictionary String Fields
  partQueue : List PartQueueItem
  partSeq : Nat
  partCompletionWatermark : Dictionary (String × String) Int
  partRows : List PartQueueItem
  uuids : Nat

def MemoryStore.empty : MemoryStore where
  nodes := .empty
  machines := []
  metrics := []
  nodeHeartbeatsV2 := .empty
  partQueue := []
  partSeq := 0
  partCompletionWatermark := .empty
  partRows := []
  uuids := 0

/-- A procedure of the store keeps what it has changed when it raises. -/
abbrev StoreProcedure (α : Type) := Procedure StoreFault MemoryStore α

/-- `part in text`. -/
def containsText (part text : String) : Bool := decide (part.toList <:+: text.toList)

def inferWorkshopType (nodeCode : String) : String :=
  match ["turning", "milling", "grinding"].find? fun key => containsText key nodeCode with
  | some key => key
  | none =>
    if containsText "db" nodeCode then "database"
    else if containsText "cloud" nodeCode then "cloud"
    else "general"

def nodeDisplayName (nodeCode workshopType : String) : String :=
  (workshopNames.lookup workshopType).getD nodeCode

def isControlPlaneNode (nodeCode : String) (workshopType : String) : Bool :=
  let resolvedType := if workshopType ≠ "" then workshopType else inferWorkshopType nodeCode
  ["cloud-workshop-01", "cloud-db-01"].contains nodeCode ||
    ["cloud", "database"].contains resolvedType

section Runs

variable (env : StoreEnv) (store : MemoryStore)

/-- `str(heartbeat.runtime.get(key) or "")`. -/
def runtimeText (heartbeat : Fields) (key : String) : String :=
  env.builtins.text (((heartbeat.get "runtime").dict.get key).or (.str ""))

def currentRunIdForNode (nodeCode : String) : String :=
  runtimeText env ((store.nodeHeartbeatsV2.get? nodeCode).getD []) "run_id"

/-- One round of the loop of `current_run_id_for_system`. -/
def latestRun (latest : String × String) (item : String × Fields) : String × String :=
  if env.settings.expectedProductionNodes ≠ [] ∧
      item.1 ∉ env.settings.expectedProductionNodes then latest
  else
    let runId := runtimeText env item.2 "run_id"
    if runId = "" then latest
    else
      let receivedAt := env.builtins.text
        (((item.2.get "_received_at").or (item.2.get "timestamp")).or (.str ""))
      if latest.1 ≤ receivedAt then (receivedAt, runId) else latest

def currentRunIdForSystem : String :=
  (store.nodeHeartbeatsV2.items.foldl (latestRun env) ("", "")).2

end Runs

/-- `part_in_current_run`, given the current run of the system. -/
def PartQueueItem.inRun (part : PartQueueItem) (run : String) : Bool :=
  run = "" || part.runId = run

end MiniOgas
