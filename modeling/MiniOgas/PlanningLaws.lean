import Mathlib.Data.List.Dedup
import MiniOgas.ProductionPlanning

namespace MiniOgas

open Bounded RowLog

variable {orders : List AllocationOrder} {order : AllocationOrder}
  {code : String} {plan : ProductionPlanIn} {plans : List ProductionPlanIn}
  {state : PlanningState} {env : PlanningEnv}

theorem mem_activeOrdersOf :
    order ∈ activeOrdersOf orders code ↔
      order ∈ orders ∧ order.active = true ∧ order.productCode = code := by
  simp [activeOrdersOf]

theorem code_mem_of_active (member : order ∈ activeOrdersOf orders code) :
    code ∈ (firsts (·.productCode) (·.active) [] orders).map (·.productCode) := by
  obtain ⟨there, active, same⟩ := mem_activeOrdersOf.mp member
  obtain ⟨first, kept, own⟩ := exists_firsts there active
    (List.not_mem_nil : order.productCode ∉ [])
  exact List.mem_map.mpr ⟨first, kept, own.trans same⟩

theorem lookup_map_key {α β : Type} (key : α → String) (value : String → β) (xs : List α)
    (code : String) : (xs.map fun x => (key x, value (key x))).lookup code =
      if code ∈ xs.map key then some (value code) else none := by
  induction xs with
  | nil => rfl
  | cons x rest ih =>
    by_cases same : code = key x
    · simp [same]
    · have differs : (code == key x) = false := beq_eq_false_iff_ne.mpr same
      rw [List.map_cons, List.lookup_cons, differs, ih]
      simp [same]

theorem ordersOf_grouped (orders : List AllocationOrder) (code : String) :
    ordersOf (activeAllocationOrdersByProduct orders) code = activeOrdersOf orders code := by
  have found := lookup_map_key (·.productCode) (activeOrdersOf orders)
    (firsts (·.productCode) (·.active) [] orders) code
  change (List.lookup code ((firsts (·.productCode) (·.active) [] orders).map fun order =>
    (order.productCode, activeOrdersOf orders order.productCode))).getD [] = _
  rw [found]
  split
  next => rfl
  next absent =>
    symm
    rw [Option.getD_none, List.eq_nil_iff_forall_not_mem]
    intro order member
    exact absent (code_mem_of_active member)

theorem activeOrdersOf_other {other : String} (ne : other ≠ code) :
    activeOrdersOf (activeOrdersOf orders other) code = [] := by
  rw [List.eq_nil_iff_forall_not_mem]
  intro order member
  obtain ⟨there, -, same⟩ := mem_activeOrdersOf.mp member
  exact ne ((mem_activeOrdersOf.mp there).2.2.symm.trans same)

theorem activeOrdersOf_flatMap {codes : List String} (distinct : codes.Nodup) (code : String) :
    activeOrdersOf (codes.flatMap (activeOrdersOf orders)) code =
      if code ∈ codes then activeOrdersOf orders code else [] := by
  induction codes with
  | nil => rfl
  | cons other rest ih =>
    obtain ⟨fresh, distinct⟩ := List.nodup_cons.mp distinct
    have split_ : activeOrdersOf ((other :: rest).flatMap (activeOrdersOf orders)) code =
        activeOrdersOf (activeOrdersOf orders other) code ++
          activeOrdersOf (rest.flatMap (activeOrdersOf orders)) code := by
      exact List.filter_append ..
    rw [split_, ih distinct]
    by_cases same : other = code
    · subst same
      have again : activeOrdersOf (activeOrdersOf orders other) other =
          activeOrdersOf orders other := by simp [activeOrdersOf]
      rw [again, if_neg fresh, List.append_nil, if_pos List.mem_cons_self]
    · rw [activeOrdersOf_other same, List.nil_append]
      simp [Ne.symm same]

theorem activeOrdersOf_request (state : PlanningState) (code : String) :
    activeOrdersOf state.request.allocationOrders code =
      activeOrdersOf state.control.orders code := by
  have flat : state.request.allocationOrders =
      ((firsts (·.productCode) (·.active) [] state.control.orders).map
        (·.productCode)).flatMap (activeOrdersOf state.control.orders) := by
    change List.flatMap _ (List.map _ _) = _
    rw [List.flatMap_map, List.flatMap_map]
  rw [flat, activeOrdersOf_flatMap (firsts_distinct [] _)]
  split
  next => rfl
  next absent =>
    symm
    rw [List.eq_nil_iff_forall_not_mem]
    intro order member
    exact absent (code_mem_of_active member)

theorem foldl_min_le (n : Int) (ns : List Int) :
    ns.foldl min n ≤ n ∧ ∀ m ∈ ns, ns.foldl min n ≤ m := by
  induction ns generalizing n with
  | nil => exact ⟨le_refl n, List.forall_mem_nil _⟩
  | cons k rest ih =>
    obtain ⟨first, later⟩ := ih (min n k)
    rw [List.foldl_cons]
    refine ⟨by omega, fun m member => ?_⟩
    rcases List.mem_cons.mp member with rfl | member
    · omega
    · exact later m member

theorem le_foldl_min {least n : Int} {ns : List Int} (first : least ≤ n)
    (each : ∀ m ∈ ns, least ≤ m) : least ≤ ns.foldl min n := by
  induction ns generalizing n with
  | nil => exact first
  | cons k rest ih =>
    have head := each k List.mem_cons_self
    exact ih (by omega) fun m member => each m (List.mem_cons_of_mem k member)

theorem leastPriority_le (priority : Int) (orders : List AllocationOrder) :
    leastPriority priority orders ≤ priority ∧
      ∀ order ∈ orders, leastPriority priority orders ≤ order.priority := by
  obtain ⟨first, each⟩ := foldl_min_le priority (orders.map fun order => (order.priority : Int))
  exact ⟨first, fun order member => each _ (List.mem_map.mpr ⟨order, member, rfl⟩)⟩

structure Commits (orders : List AllocationOrder) (code : String) (plan : ProductionPlan) :
    Prop where
  product : plan.productCode = code
  quantity : committedQuantity (activeOrdersOf orders code) ≤ plan.targetQuantity
  priority : ∀ order ∈ activeOrdersOf orders code, plan.priority ≤ order.priority

def AllocationOrder.Valid (order : AllocationOrder) : Prop :=
  1 ≤ order.priority ∧ order.priority ≤ 10

theorem one_le_leastPriority (valid : ∀ order ∈ orders, order.Valid) {priority : Int}
    (positive : 1 ≤ priority) : 1 ≤ leastPriority priority (activeOrdersOf orders code) := by
  refine le_foldl_min positive fun n member => ?_
  obtain ⟨order, there, rfl⟩ := List.mem_map.mp member
  have one := (valid order (mem_activeOrdersOf.mp there).1).1
  omega

theorem validatePlan_commits (valid : ∀ order ∈ orders, order.Valid) {market priority : Int}
    (clamped : 1 ≤ priority ∧ priority ≤ 10) (route : List String) (reason : String) :
    ∃ plan, validatePlan code (max market (committedQuantity (activeOrdersOf orders code)))
      (leastPriority priority (activeOrdersOf orders code)) route reason = some plan ∧
        Commits orders code plan.toProductionPlan := by
  obtain ⟨first, each⟩ := leastPriority_le priority (activeOrdersOf orders code)
  have positive : 1 ≤ leastPriority priority (activeOrdersOf orders code) :=
    one_le_leastPriority valid clamped.1
  refine ⟨_, if_pos ⟨by omega, positive, by omega⟩, rfl, ?_, fun order member => ?_⟩
  · change _ ≤ Int.toNat _
    omega
  · have le := each order member
    change Int.toNat _ ≤ _
    omega

theorem isProduct_iff : isProduct code = true ↔ code ∈ products.map Prod.fst := by
  unfold isProduct
  simp [List.lookup_isSome_iff]

theorem canonicalProductCode_product (listed : isProduct code = true) :
    canonicalProductCode code = code := by
  have member := isProduct_iff.mp listed
  simp only [products, List.map_cons, List.map_nil, List.mem_cons, List.not_mem_nil,
    or_false] at member
  rcases member with rfl | rfl | rfl | rfl | rfl <;> rfl

structure PlansCover (accepted : List AllocationOrder) (plans : List ProductionPlan) : Prop where
  sorted : plans.Pairwise fun first second => first.priority ≤ second.priority
  covered : ∀ order ∈ accepted, order.active = true → ∃ plan,
    plans.filter (·.productCode = order.productCode) = [plan] ∧
      Commits accepted order.productCode plan

theorem filter_eq_singleton {α : Type} {key : α → String} {xs : List α} {x : α}
    (distinct : (xs.map key).Nodup) (member : x ∈ xs) : xs.filter (key · = key x) = [x] := by
  induction xs with
  | nil => cases member
  | cons y rest ih =>
    obtain ⟨fresh, distinct⟩ := List.nodup_cons.mp distinct
    rcases List.mem_cons.mp member with rfl | there
    · have none : rest.filter (key · = key x) = [] := by
        refine List.filter_eq_nil_iff.mpr fun z other same => fresh ?_
        exact List.mem_map.mpr ⟨z, other, of_decide_eq_true same⟩
      rw [List.filter_cons_of_pos (by simp), none]
    · have differs : key y ≠ key x := fun same =>
        fresh (same ▸ List.mem_map.mpr ⟨x, there, rfl⟩)
      rw [List.filter_cons_of_neg (by simp [differs]), ih distinct there]

theorem plansCover_sortPlans (distinct : (plans.map (·.productCode)).Nodup)
    (commits : ∀ plan ∈ plans, Commits orders plan.productCode plan.toProductionPlan)
    (planned : ∀ order ∈ orders, order.active = true →
      order.productCode ∈ plans.map (·.productCode)) :
    PlansCover orders ((sortPlans plans).map (·.toProductionPlan)) := by
  have perm : (sortPlans plans).Perm plans := List.perm_insertionSort _ plans
  refine ⟨?_, fun order member active => ?_⟩
  · rw [List.pairwise_map]
    have : Std.Total fun first second : ProductionPlanIn => first.priority ≤ second.priority :=
      ⟨fun first second => Nat.le_total first.priority second.priority⟩
    have : IsTrans ProductionPlanIn fun first second => first.priority ≤ second.priority :=
      ⟨fun _ _ _ => Nat.le_trans⟩
    exact List.pairwise_insertionSort _ plans
  · obtain ⟨plan, there, same⟩ := List.mem_map.mp (planned order member active)
    refine ⟨plan.toProductionPlan, ?_, same ▸ commits plan there⟩
    rw [← same]
    refine @filter_eq_singleton _ ProductionPlan.productCode _ _ ?_ ?_
    · rw [List.map_map]
      exact (perm.map _).nodup_iff.mpr distinct
    · exact List.mem_map.mpr ⟨plan, perm.mem_iff.mpr there, rfl⟩

theorem exists_forall₂ {α β : Type} {f : α → Option β} {R : α → β → Prop} {xs : List α}
    (each : ∀ x ∈ xs, ∃ y, f x = some y ∧ R x y) :
    ∃ ys, xs.mapM f = some ys ∧ xs.filterMap f = ys ∧ List.Forall₂ R xs ys := by
  induction xs with
  | nil => exact ⟨[], rfl, rfl, .nil⟩
  | cons x rest ih =>
    obtain ⟨y, found, related⟩ := each x List.mem_cons_self
    obtain ⟨ys, mapped, filtered, all⟩ := ih fun x member => each x (List.mem_cons_of_mem _ member)
    refine ⟨y :: ys, ?_, ?_, .cons related all⟩
    · rw [List.mapM_cons, found, mapped]
      rfl
    · rw [List.filterMap_cons_some found, filtered]

theorem codes_of_commits {codes : List String}
    (all : List.Forall₂ (fun code plan => Commits orders code plan.toProductionPlan) codes plans) :
    plans.map (·.productCode) = codes ∧
      ∀ plan ∈ plans, Commits orders plan.productCode plan.toProductionPlan := by
  induction all with
  | nil => exact ⟨rfl, List.forall_mem_nil _⟩
  | cons commits _ ih =>
    refine ⟨List.cons_eq_cons.mpr ⟨commits.product, ih.1⟩, fun plan member => ?_⟩
    rcases List.mem_cons.mp member with rfl | member
    · have own := commits.product
      exact own ▸ commits
    · exact ih.2 plan member

structure PlanningSound (state : PlanningState) : Prop where
  valid : ∀ order ∈ state.control.orders, order.Valid
  listed : ∀ order ∈ state.control.orders, isProduct order.productCode = true
  settled : ∀ order ∈ state.trimmed, order.active = false

theorem planLocally_covers (sound : PlanningSound state) :
    ∃ plans, state.planLocally = some plans ∧
      PlansCover state.control.orders (plans.map (·.toProductionPlan)) := by
  have each : ∀ product ∈ products, ∃ plan, state.planProduct product.1 = some plan ∧
      Commits state.control.orders product.1 plan.toProductionPlan := by
    intro product _
    unfold PlanningState.planProduct
    rw [ordersOf_grouped]
    exact validatePlan_commits sound.valid (by omega) _ _
  obtain ⟨plans, mapped, -, all⟩ := exists_forall₂ each
  obtain ⟨codes, commits⟩ := codes_of_commits (List.forall₂_map_left_iff.mpr all)
  refine ⟨sortPlans plans, ?_, plansCover_sortPlans ?_ commits fun order member _ => ?_⟩
  · rw [PlanningState.planLocally, mapped]
    rfl
  · rw [codes]
    decide
  · rw [codes]
    exact isProduct_iff.mp (sound.listed order member)

theorem planItem_commits (sound : PlanningSound state) (listed : isProduct code = true) :
    ∃ plan, planOfItem (state.request.planItem code) = some plan ∧
      Commits state.control.orders code plan.toProductionPlan := by
  unfold planOfItem PlanningRequest.planItem
  rw [ordersOf_grouped, activeOrdersOf_request, canonicalProductCode_product listed, if_pos listed]
  have clamped (c : Prop) [Decidable c] : 1 ≤ (if c then 2 else 6 : Int) ∧
      (if c then 2 else 6 : Int) ≤ 10 := by
    split <;> omega
  have nonzero (c : Prop) [Decidable c] : leastPriority (if c then 2 else 6)
      (activeOrdersOf state.control.orders code) ≠ 0 := by
    have positive : 1 ≤ leastPriority (if c then 2 else 6)
        (activeOrdersOf state.control.orders code) :=
      one_le_leastPriority sound.valid (clamped c).1
    omega
  rw [if_neg (nonzero _)]
  exact validatePlan_commits sound.valid (clamped _) _ _

theorem mem_grouped_iff :
    code ∈ (activeAllocationOrdersByProduct orders).map Prod.fst ↔
      ∃ order, order ∈ activeOrdersOf orders code := by
  unfold activeAllocationOrdersByProduct
  rw [List.map_map]
  constructor
  · intro member
    obtain ⟨order, first, same⟩ := List.mem_map.mp member
    refine ⟨order, mem_activeOrdersOf.mpr ⟨?_, (mem_firsts_spec first).1, same⟩⟩
    exact (firsts_sublist _ _).subset first
  · rintro ⟨order, member⟩
    exact code_mem_of_active member

theorem mem_productCodes_iff :
    code ∈ state.request.productCodes ↔ (∃ signal ∈ state.market.signals,
      signal.productCode = code) ∨ ∃ order, order ∈ activeOrdersOf state.control.orders code := by
  rw [← activeOrdersOf_request, ← mem_grouped_iff]
  unfold PlanningRequest.productCodes
  rw [(List.perm_insertionSort _ _).mem_iff, List.mem_dedup, List.mem_append]
  simp [PlanningState.request]

theorem generateViaService_covers (sound : PlanningSound state)
    (answers : (env.plannerAnswers && state.request.valid) = true) :
    PlansCover state.control.orders
      ((state.generateViaService env).map (·.toProductionPlan)) := by
  have listed : ∀ code ∈ state.request.productCodes, isProduct code = true := by
    intro code member
    rcases mem_productCodes_iff.mp member with ⟨signal, there, rfl⟩ | ⟨order, there⟩
    · exact state.market.listed signal there
    · obtain ⟨kept, -, rfl⟩ := mem_activeOrdersOf.mp there
      exact sound.listed order kept
  obtain ⟨plans, -, filtered, all⟩ := exists_forall₂ fun code member =>
    planItem_commits sound (listed code member)
  obtain ⟨codes, commits⟩ := codes_of_commits all
  have perm : (state.request.plan.filterMap planOfItem).Perm plans := by
    rw [← filtered]
    have items : (state.request.productCodes.map state.request.planItem).filterMap planOfItem =
        state.request.productCodes.filterMap fun code =>
          planOfItem (state.request.planItem code) := List.filterMap_map
    rw [← items]
    exact (List.perm_insertionSort _ _).filterMap planOfItem
  have distinct : state.request.productCodes.Nodup :=
    (List.perm_insertionSort _ _).nodup_iff.mpr (List.nodup_dedup _)
  rw [PlanningState.generateViaService, if_pos answers]
  refine plansCover_sortPlans ?_ (fun plan member => commits plan (perm.mem_iff.mp member)) ?_
  · rw [(perm.map _).nodup_iff, codes]
    exact distinct
  · intro order member active
    rw [(perm.map _).mem_iff, codes]
    exact mem_productCodes_iff.mpr (.inr ⟨order, mem_activeOrdersOf.mpr ⟨member, active, rfl⟩⟩)

theorem refreshMarketViaService_spec (env : PlanningEnv) (state : PlanningState) :
    (state.refreshMarketViaService env).control = state.control ∧
      (state.refreshMarketViaService env).trimmed = state.trimmed := by
  unfold PlanningState.refreshMarketViaService
  split
  next => exact ⟨rfl, rfl⟩
  next => dsimp only; split <;> exact ⟨rfl, rfl⟩

theorem generateProductionPlan_covers (sound : PlanningSound state) (env : PlanningEnv) :
    (state.generateProductionPlan env).2.control.orders = state.control.orders ∧
      (state.generateProductionPlan env).2.trimmed = state.trimmed ∧
      PlansCover state.control.orders (state.generateProductionPlan env).2.control.plans := by
  unfold PlanningState.generateProductionPlan
  dsimp only
  have refreshed : (if env.microservicesEnabled = true then state.refreshMarketViaService env
      else state).control = state.control ∧ (if env.microservicesEnabled = true then
        state.refreshMarketViaService env else state).trimmed = state.trimmed := by
    split
    next => exact refreshMarketViaService_spec env state
    next => exact ⟨rfl, rfl⟩
  generalize (if env.microservicesEnabled = true then state.refreshMarketViaService env
    else state) = current at refreshed ⊢
  obtain ⟨control, trimmed⟩ := refreshed
  have sound : PlanningSound current := by
    refine ⟨?_, ?_, ?_⟩
    · rw [control]; exact sound.valid
    · rw [control]; exact sound.listed
    · rw [trimmed]; exact sound.settled
  have orders : current.control.orders = state.control.orders := congrArg _ control
  have service : (if env.microservicesEnabled = true then current.generateViaService env
      else []).isEmpty = false → PlansCover current.control.orders
        ((if env.microservicesEnabled = true then current.generateViaService env else []).map
          (·.toProductionPlan)) := by
    intro answered
    split at answered
    next enabled =>
      rw [if_pos enabled]
      refine generateViaService_covers sound ?_
      by_contra silent
      rw [PlanningState.generateViaService, if_neg silent] at answered
      cases answered
    next => cases answered
  generalize (if env.microservicesEnabled = true then current.generateViaService env else []) =
    plans at service ⊢
  cases empty : plans.isEmpty with
  | true =>
    obtain ⟨plans, made, covers⟩ := planLocally_covers sound
    rw [if_pos rfl, made]
    exact ⟨orders, trimmed, orders ▸ covers⟩
  | false =>
    exact ⟨orders, trimmed, orders ▸ service empty⟩

/-- A submitted order is of the catalogue, and the orders it pushes out are settled. -/
def PlanningCall.Kept (state : PlanningState) : PlanningCall → Prop
  | .submitAllocationOrder input _ =>
    isProduct (canonicalProductCode input.productCode) = true ∧
      ∀ order ∈ state.control.orders.take (state.control.orders.length + 1 - orderCapacity),
        order.active = false
  | _ => True

def PlanningState.KeptRun : PlanningState → List PlanningCall → Prop
  | _, [] => True
  | state, call :: rest => call.Kept state ∧ (state.step call).KeptRun rest

theorem PlanningSound.addAllocationOrder (sound : PlanningSound state) {input : AllocationOrderIn}
    (listed : isProduct (canonicalProductCode input.productCode) = true)
    (settled : ∀ order ∈ state.control.orders.take
      (state.control.orders.length + 1 - orderCapacity), order.active = false) :
    PlanningSound (state.addAllocationOrder input) := by
  have each (order : AllocationOrder)
      (member : order ∈ (state.addAllocationOrder input).control.orders) :
      order ∈ state.control.orders ∨ order.priority = input.priority ∧
        order.productCode = canonicalProductCode input.productCode := by
    rcases of_mem_keepLast_append member with old | rfl
    · exact .inl old
    · exact .inr ⟨rfl, rfl⟩
  refine ⟨fun order member => ?_, fun order member => ?_, fun order member => ?_⟩
  · rcases each order member with old | ⟨priority, -⟩
    · exact sound.valid order old
    · have bounds := input.priority.2
      unfold AllocationOrder.Valid
      omega
  · rcases each order member with old | ⟨-, code⟩
    · exact sound.listed order old
    · rw [code]
      exact listed
  · rcases List.mem_append.mp member with old | out
    · exact sound.settled order old
    · exact settled order out

theorem PlanningSound.setOrderStatus (sound : PlanningSound state) (orderId : String)
    (status : OrderStatus) :
    PlanningSound { state with control := state.control.setOrderStatus orderId status } := by
  have same : List.Forall₂ (fun order changed : AllocationOrder =>
      changed.priority = order.priority ∧ changed.productCode = order.productCode)
      state.control.orders (state.control.setOrderStatus orderId status).orders :=
    forall₂_modifyFirst (fun _ => ⟨rfl, rfl⟩) fun _ _ => ⟨rfl, rfl⟩
  have each (changed : AllocationOrder)
      (member : changed ∈ (state.control.setOrderStatus orderId status).orders) :
      ∃ order ∈ state.control.orders, changed.priority = order.priority ∧
        changed.productCode = order.productCode :=
    exists_left_of_forall₂ same member
  refine ⟨fun order member => ?_, fun order member => ?_, sound.settled⟩
  · obtain ⟨old, there, priority, -⟩ := each order member
    have valid := sound.valid old there
    unfold AllocationOrder.Valid at valid ⊢
    omega
  · obtain ⟨old, there, -, code⟩ := each order member
    rw [code]
    exact sound.listed old there

theorem PlanningSound.generateProductionPlan (sound : PlanningSound state) (env : PlanningEnv) :
    PlanningSound (state.generateProductionPlan env).2 := by
  obtain ⟨orders, trimmed, -⟩ := generateProductionPlan_covers sound env
  refine ⟨?_, ?_, ?_⟩
  · rw [orders]
    exact sound.valid
  · rw [orders]
    exact sound.listed
  · rw [trimmed]
    exact sound.settled

theorem PlanningSound.step (sound : PlanningSound state) {call : PlanningCall}
    (kept : call.Kept state) : PlanningSound (state.step call) := by
  cases call with
  | submitAllocationOrder input env =>
    exact (sound.addAllocationOrder kept.1 kept.2).generateProductionPlan env
  | generateProductionPlan env => exact sound.generateProductionPlan env
  | setOrderStatus orderId status => exact sound.setOrderStatus orderId status
  | market board inventory store => exact { sound with }

theorem PlanningSound.run (sound : PlanningSound state) {calls : List PlanningCall}
    (kept : state.KeptRun calls) : PlanningSound (state.run calls) := by
  induction calls generalizing state with
  | nil => exact sound
  | cons call rest ih => exact ih (sound.step kept.1) kept.2

theorem keptRun_append {calls rest : List PlanningCall} (kept : state.KeptRun (calls ++ rest)) :
    state.KeptRun calls ∧ (state.run calls).KeptRun rest := by
  induction calls generalizing state with
  | nil => exact ⟨trivial, kept⟩
  | cons call calls ih =>
    obtain ⟨before, after⟩ := ih kept.2
    exact ⟨⟨kept.1, before⟩, after⟩

theorem PlansCover.accepted {plans : List ProductionPlan}
    (covers : PlansCover state.control.orders plans)
    (settled : ∀ order ∈ state.trimmed, order.active = false) :
    PlansCover state.accepted plans := by
  have same (code : String) : activeOrdersOf state.accepted code =
      activeOrdersOf state.control.orders code := by
    have none : activeOrdersOf state.trimmed code = [] := by
      refine List.filter_eq_nil_iff.mpr fun order member => ?_
      simp [settled order member]
    unfold activeOrdersOf at none ⊢
    rw [PlanningState.accepted, List.filter_append, none, List.nil_append]
  refine ⟨covers.sorted, fun order member active => ?_⟩
  have kept : order ∈ state.control.orders := by
    rcases List.mem_append.mp member with out | kept
    · rw [settled order out] at active
      cases active
    · exact kept
  obtain ⟨plan, only, commits⟩ := covers.covered order kept active
  refine ⟨plan, only, commits.product, ?_, ?_⟩
  · rw [same]
    exact commits.quantity
  · rw [same]
    exact commits.priority

/-- After a call that plans, in a run whose orders are of the catalogue and that pushes out
settled ones only, the plans cover all orders that were accepted. -/
theorem accepted_orders_planned {calls : List PlanningCall} {call : PlanningCall}
    (fresh : state.accepted = []) (kept : state.KeptRun (calls ++ [call]))
    (plans : call.plans = true) :
    PlansCover (state.run (calls ++ [call])).accepted
      (state.run (calls ++ [call])).control.plans := by
  obtain ⟨trimmed, orders⟩ := List.append_eq_nil_iff.mp fresh
  have start : PlanningSound state := by
    refine ⟨?_, ?_, ?_⟩
    · rw [orders]
      exact List.forall_mem_nil _
    · rw [orders]
      exact List.forall_mem_nil _
    · rw [trimmed]
      exact List.forall_mem_nil _
  obtain ⟨before, last, -⟩ := keptRun_append kept
  have sound := start.run before
  have after := sound.step last
  rw [PlanningState.run, List.foldl_append, List.foldl_cons, List.foldl_nil]
  change PlanningSound ((state.run calls).step call) at after
  change PlansCover ((state.run calls).step call).accepted
    ((state.run calls).step call).control.plans
  refine PlansCover.accepted ?_ after.settled
  cases call with
  | submitAllocationOrder input env =>
    obtain ⟨same, -, covers⟩ :=
      generateProductionPlan_covers (sound.addAllocationOrder last.1 last.2) env
    exact same.symm ▸ covers
  | generateProductionPlan env =>
    obtain ⟨same, -, covers⟩ := generateProductionPlan_covers sound env
    exact same.symm ▸ covers
  | setOrderStatus orderId status => cases plans
  | market board inventory store => cases plans

def PlanningState.empty : PlanningState := ⟨.empty, .empty, [], []⟩

theorem aliasQuantity_valid : 1 ≤ 71 := by decide

theorem localQuantity_valid : 1 ≤ 200 := by decide

theorem firstPriority_valid : 1 ≤ 1 ∧ 1 ≤ 10 := by decide

theorem usualPriority_valid : 1 ≤ 3 ∧ 3 ≤ 10 := by decide

theorem usualDeadline_valid : 1 ≤ 24 := by decide

def samplePlanning : List PlanningCall :=
  [.submitAllocationOrder
      { productCode := "A3", requiredQuantity := ⟨71, aliasQuantity_valid⟩
        priority := ⟨3, usualPriority_valid⟩, deadlineHours := ⟨24, usualDeadline_valid⟩ }
      { microservicesEnabled := true, marketReply := some [⟨"A1", 120, 1, 10⟩],
        plannerAnswers := true },
    .submitAllocationOrder
      { productCode := "P3", requiredQuantity := ⟨200, localQuantity_valid⟩
        priority := ⟨1, firstPriority_valid⟩, deadlineHours := ⟨24, usualDeadline_valid⟩ } {}]

theorem accepted_orders_sample :
    PlansCover (PlanningState.empty.run samplePlanning).accepted
      (PlanningState.empty.run samplePlanning).control.plans := by
  have kept : PlanningState.empty.KeptRun samplePlanning :=
    ⟨⟨by decide, by decide +kernel⟩, ⟨by decide, by decide +kernel⟩, trivial⟩
  exact @accepted_orders_planned _ [_] _ rfl kept rfl

/-- An order that is accepted for a product outside the catalogue gets no plan. -/
theorem unknown_product_unplanned :
    ¬ PlansCover (PlanningState.empty.run
        [.submitAllocationOrder { productCode := "P6", requiredQuantity := ⟨40, by decide⟩ }
          { microservicesEnabled := true, plannerAnswers := true }]).accepted
      (PlanningState.empty.run
        [.submitAllocationOrder { productCode := "P6", requiredQuantity := ⟨40, by decide⟩ }
          { microservicesEnabled := true, plannerAnswers := true }]).control.plans := by
  intro covers
  obtain ⟨plan, only, -⟩ := covers.covered
    { orderId := "AO-001", productCode := "P6", requiredQuantity := 40, priority := 3
      deadlineHours := 24 } (by decide +kernel) rfl
  have none : ((PlanningState.empty.run
      [.submitAllocationOrder { productCode := "P6", requiredQuantity := ⟨40, by decide⟩ }
        { microservicesEnabled := true, plannerAnswers := true }]).control.plans.filter
          (·.productCode = "P6")) = [] := by
    decide +kernel
  rw [none] at only
  cases only

end MiniOgas
