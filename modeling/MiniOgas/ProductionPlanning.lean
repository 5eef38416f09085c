import MiniOgas.ControlAuthority

namespace MiniOgas

open Bounded RowLog

structure MarketSignal where
  productCode : String
  demandIndex : ℚ
  seasonFactor : ℚ
  inventoryPressure : ℚ

structure InventoryItem where
  productCode : String
  pressureScore : ℚ

structure ProductionPlanIn extends ProductionPlan where
  reason : String

/-- `code in PRODUCTS`. -/
def isProduct (code : String) : Bool := (products.lookup code).isSome

structure MarketBoard where
  signals : List MarketSignal
  listed : ∀ signal ∈ signals, isProduct signal.productCode = true

def MarketBoard.empty : MarketBoard := ⟨[], by simp⟩

/-- `f"{q:.0f}"`. -/
def fixedPoint (q : ℚ) : String :=
  (if q < 0 ∧ roundHalfEven q = 0 then "-" else "") ++ toString (roundHalfEven q)

def AllocationOrder.active (order : AllocationOrder) : Bool :=
  !(order.status = .completed || order.status = .cancelled || order.status = .rejected)

def activeOrdersOf (orders : List AllocationOrder) (code : String) : List AllocationOrder :=
  orders.filter fun order => order.active && order.productCode = code

def activeAllocationOrdersByProduct (orders : List AllocationOrder) :
    List (String × List AllocationOrder) :=
  (firsts (·.productCode) (·.active) [] orders).map fun order =>
    (order.productCode, activeOrdersOf orders order.productCode)

/-- `orders_by_product.get(code, [])`. -/
def ordersOf (grouped : List (String × List AllocationOrder)) (code : String) :
    List AllocationOrder :=
  (grouped.lookup code).getD []

def committedQuantity (orders : List AllocationOrder) : Nat :=
  (orders.map (·.requiredQuantity)).sum

/-- `min([priority, *(order.priority for order in orders)])`. -/
def leastPriority (priority : Int) (orders : List AllocationOrder) : Int :=
  (orders.map fun order => (order.priority : Int)).foldl min priority

def orderReason (orders : List AllocationOrder) : String :=
  if orders = [] then ""
  else "; accepted_orders=" ++ ",".intercalate (orders.map (·.orderId)) ++
    s!"; committed_quantity={committedQuantity orders}"

def validatePlan (code : String) (target priority : Int) (route : List String) (reason : String) :
    Option ProductionPlanIn :=
  if 0 ≤ target ∧ 1 ≤ priority ∧ priority ≤ 10 then
    some
      { productCode := code, targetQuantity := target.toNat, priority := priority.toNat
        route, reason }
  else none

def sortPlans (plans : List ProductionPlanIn) : List ProductionPlanIn :=
  plans.insertionSort fun first second => first.priority ≤ second.priority

structure PlannerSignal where
  productCode : String
  demandIndex : ℚ
  inventoryPressure : ℚ

structure NodeHealth where
  nodeCode : String
  workshopType : String
  status : NodeStatus
  loadScore : ℚ

structure PlanningRequest where
  marketSignals : List PlannerSignal
  nodeHealth : List NodeHealth
  allocationOrders : List AllocationOrder

structure PlanItem where
  productCode : String
  targetQuantity : Int
  priority : Int
  route : List String
  reason : String

/-- `ROUTES` of the planner. -/
def plannerRoutes : List (String × List String) :=
  [("P1", ["turning", "grinding"]), ("P2", ["turning", "milling"]),
    ("P3", ["turning", "milling", "grinding"]), ("P4", ["turning", "grinding"]),
    ("P5", ["milling", "grinding"])]

def PlanningRequest.valid (request : PlanningRequest) : Bool :=
  request.nodeHealth.all (fun node => 0 ≤ node.loadScore && node.loadScore ≤ 100) &&
    request.allocationOrders.all fun order => 1 ≤ order.requiredQuantity &&
      1 ≤ order.priority && order.priority ≤ 10 && 1 ≤ order.deadlineHours

def PlanningRequest.healthyWorkshops (request : PlanningRequest) : List String :=
  (request.nodeHealth.filter fun node => node.status = .online && node.loadScore < 80).map
    (·.workshopType)

def PlanningRequest.planItem (request : PlanningRequest) (code : String) : PlanItem :=
  let signal := latest (·.productCode) request.marketSignals code
  let route := (plannerRoutes.lookup code).getD ["turning"]
  let routeAvailable := route.all request.healthyWorkshops.contains
  let pressure :=
    (signal.map fun signal => toDouble (signal.demandIndex - signal.inventoryPressure)).getD 0
  let marketPriority : Int := if 60 < pressure ∧ routeAvailable = true then 2 else 6
  let marketQuantity :=
    if routeAvailable then max 10 (truncate (toDouble (pressure * 2)))
    else max 5 (truncate pressure)
  let activeOrders := ordersOf (activeAllocationOrdersByProduct request.allocationOrders) code
  let priority := leastPriority marketPriority activeOrders
  { productCode := code
    targetQuantity := max marketQuantity (committedQuantity activeOrders)
    priority := priority
    route := route
    reason := (if priority ≤ 2 then "Market demand and route capacity support the production plan"
      else "Inventory pressure or node health constrains the production plan") ++
        orderReason activeOrders }

/-- `sorted(set(signals) | set(orders_by_product))`. -/
def PlanningRequest.productCodes (request : PlanningRequest) : List String :=
  (request.marketSignals.map (·.productCode) ++
    (activeAllocationOrdersByProduct request.allocationOrders).map (·.1)).dedup.insertionSort
      (· ≤ ·)

def PlanningRequest.plan (request : PlanningRequest) : List PlanItem :=
  (request.productCodes.map request.planItem).insertionSort fun first second =>
    first.priority ≤ second.priority

structure SimulatorSignal where
  productCode : String
  demandIndex : ℚ
  seasonFactor : ℚ
  inventoryPressure : ℚ

structure PlanningEnv where
  microservicesEnabled : Bool := false
  marketReply : Option (List SimulatorSignal) := none
  plannerAnswers : Bool := false

/-- The part of `MemoryStore` that plans are made of. `trimmed` has the orders that are no longer
kept. -/
structure PlanningState where
  control : ControlState
  market : MarketBoard
  inventory : List InventoryItem
  trimmed : List AllocationOrder

def PlanningState.accepted (state : PlanningState) : List AllocationOrder :=
  state.trimmed ++ state.control.orders

/-- `float(value or default)`. -/
def orDefault (value default : ℚ) : ℚ := if value = 0 then default else value

def marketSignalsFromService (payload : List SimulatorSignal) : MarketBoard where
  signals := (payload.filter fun item => isProduct (canonicalProductCode item.productCode)).map
    fun item =>
      { productCode := canonicalProductCode item.productCode
        demandIndex := orDefault item.demandIndex 80
        seasonFactor := orDefault item.seasonFactor 1
        inventoryPressure := item.inventoryPressure }
  listed signal member := by
    obtain ⟨item, kept, rfl⟩ := List.mem_map.mp member
    exact (List.mem_filter.mp kept).2

def setPressure (inventory : List InventoryItem) (signal : MarketSignal) : List InventoryItem :=
  (modifyFirst (fun item => item.productCode = signal.productCode)
    (fun item => { item with pressureScore := signal.inventoryPressure }) inventory.reverse).reverse

def PlanningState.refreshMarketViaService (env : PlanningEnv) (state : PlanningState) :
    PlanningState :=
  match env.marketReply with
  | none => state
  | some payload =>
    let board := marketSignalsFromService payload
    if board.signals.isEmpty then state
    else
      { state with
        market := board
        inventory := board.signals.foldl setPressure state.inventory }

/-- `round(mean(loads), 1)`. -/
def meanLoad (loads : List ℚ) : ℚ :=
  let mean := toDouble (loads.sum / loads.length)
  toDouble (roundHalfEven (mean * 10) / 10)

def plannerNodeHealth (store : MemoryStore) : List NodeHealth :=
  (store.nodes.values.filter fun node =>
    ["turning", "milling", "grinding"].contains node.workshopType).map fun node =>
      let loads := (store.machines.filter (·.nodeCode = node.nodeCode)).map (·.loadRate)
      { nodeCode := node.nodeCode
        workshopType := node.workshopType
        status := node.status
        loadScore := if loads = [] then 100 else meanLoad loads }

def PlanningState.request (state : PlanningState) : PlanningRequest where
  marketSignals := state.market.signals.map fun signal =>
    ⟨signal.productCode, signal.demandIndex, signal.inventoryPressure⟩
  nodeHealth := plannerNodeHealth state.control.store
  allocationOrders := (activeAllocationOrdersByProduct state.control.orders).flatMap (·.2)

def planOfItem (item : PlanItem) : Option ProductionPlanIn :=
  let code := canonicalProductCode item.productCode
  if isProduct code then
    validatePlan code item.targetQuantity (if item.priority = 0 then 5 else item.priority)
      (if item.route = [] then productRoute code else item.route)
      (if item.reason = "" then "production-planner service" else item.reason)
  else none

/-- `_generate_production_plan_via_service`. -/
def PlanningState.generateViaService (env : PlanningEnv) (state : PlanningState) :
    List ProductionPlanIn :=
  if env.plannerAnswers && state.request.valid then
    sortPlans (state.request.plan.filterMap planOfItem)
  else []

def PlanningState.planProduct (state : PlanningState) (code : String) : Option ProductionPlanIn :=
  let signal := latest (·.productCode) state.market.signals code
  let demand := (signal.map (·.demandIndex)).getD 80
  let pressure := ((latest (·.productCode) state.inventory code).map (·.pressureScore)).getD 40
  let marketTarget := truncate (toDouble (toDouble (demand * (3 / 2)) + pressure))
  let season := (signal.map (·.seasonFactor)).getD 1
  let urgency := toDouble (toDouble (demand * season) + pressure)
  let marketPriority := max 1 (min 10 (6 - (urgency / 40).floor))
  let activeOrders := ordersOf (activeAllocationOrdersByProduct state.control.orders) code
  let priority := leastPriority marketPriority activeOrders
  validatePlan code (max marketTarget (committedQuantity activeOrders)) priority (productRoute code)
    (s!"Demand index {fixedPoint demand}, inventory pressure {fixedPoint pressure}, " ++
      s!"priority {priority}{orderReason activeOrders}.")

/-- The plans that `generate_production_plan` makes itself. -/
def PlanningState.planLocally (state : PlanningState) : Option (List ProductionPlanIn) :=
  (products.mapM fun product => state.planProduct product.1).map sortPlans

def PlanningState.withPlans (state : PlanningState) (plans : List ProductionPlanIn) :
    PlanningState :=
  { state with control := { state.control with plans := plans.map (·.toProductionPlan) } }

def PlanningState.generateProductionPlan (env : PlanningEnv) (state : PlanningState) :
    Except StoreFault (List ProductionPlanIn) × PlanningState :=
  let state := if env.microservicesEnabled then state.refreshMarketViaService env else state
  let service := if env.microservicesEnabled then state.generateViaService env else []
  if service.isEmpty then
    match state.planLocally with
    | none => (.error .validationError, state)
    | some plans => (.ok plans, state.withPlans plans)
  else (.ok service, state.withPlans service)

def PlanningState.addAllocationOrder (state : PlanningState) (input : AllocationOrderIn) :
    PlanningState :=
  { state with
    control := state.control.addAllocationOrder input
    trimmed := state.trimmed ++
      state.control.orders.take (state.control.orders.length + 1 - orderCapacity) }

/-- The calls that change what is planned. `market` is every change of the market signals, of the
inventory, of the nodes and of the machines. -/
inductive PlanningCall where
  | submitAllocationOrder (input : AllocationOrderIn) (env : PlanningEnv)
  | generateProductionPlan (env : PlanningEnv)
  | setOrderStatus (orderId : String) (status : OrderStatus)
  | market (board : MarketBoard) (inventory : List InventoryItem) (store : MemoryStore)

def PlanningState.step (state : PlanningState) : PlanningCall → PlanningState
  | .submitAllocationOrder input env =>
    ((state.addAllocationOrder input).generateProductionPlan env).2
  | .generateProductionPlan env => (state.generateProductionPlan env).2
  | .setOrderStatus orderId status =>
    { state with control := state.control.setOrderStatus orderId status }
  | .market board inventory store =>
    { state with market := board, inventory, control := { state.control with store } }

def PlanningState.run (state : PlanningState) (calls : List PlanningCall) : PlanningState :=
  calls.foldl PlanningState.step state

def PlanningCall.plans : PlanningCall → Bool
  | .submitAllocationOrder .. | .generateProductionPlan .. => true
  | _ => false

end MiniOgas
