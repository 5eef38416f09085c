import MiniOgas.PartCounts

namespace MiniOgas

def routeAfterTurning (productCode : String) : List String :=
  let route := productRoute productCode
  if route.head? = some "turning" then route.tail else route

variable {rows more new : List PartQueueItem} {part row child : PartQueueItem}
  {operations : List String} {product nodeCode : String}

inductive Lineage (rows : List PartQueueItem) : PartQueueItem → List String → Prop
  | first {part : PartQueueItem} (written : part ∈ rows) (first : part.parentPartId = "") :
      Lineage rows part [part.currentOperation]
  | next {parent part : PartQueueItem} {operations : List String}
      (before : Lineage rows parent operations) (written : part ∈ rows)
      (of : part.parentPartId = parent.partId) :
      Lineage rows part (operations ++ [part.currentOperation])

theorem Lineage.written (lineage : Lineage rows part operations) : part ∈ rows := by
  cases lineage with
  | first written => exact written
  | next _ written => exact written

structure FollowRoutes (rows : List PartQueueItem) : Prop where
  along : ∀ part operations, Lineage rows part operations →
    operations <+: routeAfterTurning part.productCode
  complete : ∀ part ∈ rows, part.status = .completed →
    (∀ child ∈ rows, child.parentPartId ≠ part.partId) →
    (routeAfterTurning part.productCode).getLast? = some part.currentOperation

theorem productRoute_mem (product : String) :
    productRoute product ∈ products.map (·.2) ++ [["turning", "inspection"]] := by
  unfold productRoute
  cases found : products.lookup (canonicalProductCode product) with
  | none => exact List.mem_append_right _ List.mem_cons_self
  | some route =>
    obtain ⟨before, after, split, -⟩ := List.lookup_eq_some_iff.mp found
    rw [split]
    simp

theorem routeAfterTurning_milling (milling : (routeAfterTurning product).head? = some "milling") :
    routeAfterTurning product = ["milling"] ∨
      routeAfterTurning product = ["milling", "grinding"] := by
  have listed := productRoute_mem product
  unfold routeAfterTurning at *
  generalize productRoute product = route at *
  revert milling
  revert route
  decide

theorem nextPartQueueStep_milled (step : part.currentStep = "milling")
    (milling : (routeAfterTurning part.productCode).head? = some "milling") :
    (routeAfterTurning part.productCode = ["milling"] ∧
      nextPartQueueStep part "milling-workshop-01" = none) ∨
    (routeAfterTurning part.productCode = ["milling", "grinding"] ∧
      nextPartQueueStep part "milling-workshop-01" =
        some ("grinding", "grinding-workshop-01")) := by
  have listed := productRoute_mem part.productCode
  unfold routeAfterTurning at milling ⊢
  unfold nextPartQueueStep
  rw [step]
  generalize productRoute part.productCode = route at *
  revert milling
  revert route
  decide

theorem nextPartQueueStep_ground (step : part.currentStep = "grinding")
    (ends : routeAfterTurning part.productCode = ["milling", "grinding"]) :
    nextPartQueueStep part "grinding-workshop-01" = none := by
  have listed := productRoute_mem part.productCode
  unfold routeAfterTurning at ends
  unfold nextPartQueueStep
  rw [step]
  generalize productRoute part.productCode = route at *
  revert ends
  revert route
  decide

structure Milled (part : PartIdentity) : Prop where
  oldest : part.parentPartId = ""
  step : part.currentStep = "milling"
  operation : part.currentOperation = "milling"
  node : part.targetNode = "milling-workshop-01"
  route : (routeAfterTurning part.productCode).head? = some "milling"

structure Ground (rows : List PartQueueItem) (part : PartIdentity) : Prop where
  parent : ∃ parent ∈ rows, part.parentPartId = parent.partId ∧ Milled parent.identity
  step : part.currentStep = "grinding"
  operation : part.currentOperation = "grinding"
  node : part.targetNode = "grinding-workshop-01"
  route : routeAfterTurning part.productCode = ["milling", "grinding"]

def Placed (rows : List PartQueueItem) (part : PartIdentity) : Prop :=
  Milled part ∨ Ground rows part

/-- A part has gone on as another, or is at the end of its route. -/
def PartEnded (rows : List PartQueueItem) (part : PartQueueItem) : Prop :=
  (∃ child ∈ rows, child.parentPartId = part.partId) ∨
    (routeAfterTurning part.productCode).getLast? = some part.currentOperation

structure RowsRouted (rows : List PartQueueItem) : Prop where
  named : ∀ row ∈ rows, row.partId ≠ ""
  one : ∀ row ∈ rows, ∀ other ∈ rows, row.partId = other.partId → row.identity = other.identity
  placed : ∀ row ∈ rows, Placed rows row.identity

theorem Placed.append (placed : Placed rows part.identity) :
    Placed (rows ++ more) part.identity := by
  rcases placed with milled | ground
  · exact .inl milled
  · obtain ⟨parent, there, of⟩ := ground.parent
    exact .inr ⟨⟨parent, List.mem_append_left _ there, of⟩, ground.step, ground.operation,
      ground.node, ground.route⟩

theorem PartEnded.append (ended : PartEnded rows part) : PartEnded (rows ++ more) part := by
  rcases ended with ⟨child, there, of⟩ | last
  · exact .inl ⟨child, List.mem_append_left _ there, of⟩
  · exact .inr last

theorem partEnded_append (ended : ∀ row ∈ rows, row.status = .completed → PartEnded rows row)
    (also : ∀ row ∈ new, row.status = .completed → PartEnded (rows ++ new) row) :
    ∀ row ∈ rows ++ new, row.status = .completed → PartEnded (rows ++ new) row := by
  intro row member completed
  rcases List.mem_append.mp member with old | written
  · exact (ended row old completed).append
  · exact also row written completed

theorem Placed.next (placed : Placed rows part.identity) (node : part.targetNode = nodeCode) :
    (nextPartQueueStep part nodeCode = none ∧
      (routeAfterTurning part.productCode).getLast? = some part.currentOperation) ∨
    (nextPartQueueStep part nodeCode = some ("grinding", "grinding-workshop-01") ∧
      Milled part.identity ∧ routeAfterTurning part.productCode = ["milling", "grinding"]) := by
  rcases placed with milled | ground
  · have operation : part.currentOperation = "milling" := milled.operation
    have station : part.targetNode = "milling-workshop-01" := milled.node
    rw [← node, station]
    rcases nextPartQueueStep_milled milled.step milled.route with ⟨route, none⟩ | ⟨route, next⟩
    · rw [route, operation]
      exact .inl ⟨none, rfl⟩
    · exact .inr ⟨next, milled, route⟩
  · have operation : part.currentOperation = "grinding" := ground.operation
    have station : part.targetNode = "grinding-workshop-01" := ground.node
    have route : routeAfterTurning part.productCode = ["milling", "grinding"] := ground.route
    rw [← node, station]
    refine .inl ⟨nextPartQueueStep_ground ground.step route, ?_⟩
    rw [route, operation]
    rfl

theorem RowsRouted.move (routed : RowsRouted rows)
    (each : ∀ row ∈ new, ∃ old ∈ rows, row.identity = old.identity) :
    RowsRouted (rows ++ new) := by
  have known : ∀ row ∈ rows ++ new, ∃ old ∈ rows, row.identity = old.identity := by
    intro row member
    rcases List.mem_append.mp member with old | written
    · exact ⟨row, old, rfl⟩
    · exact each row written
  refine ⟨?_, ?_, ?_⟩
  · intro row member
    obtain ⟨old, there, same⟩ := known row member
    have id : row.partId = old.partId := congrArg PartIdentity.partId same
    rw [id]
    exact routed.named old there
  · intro row member other member' id
    obtain ⟨old, there, same⟩ := known row member
    obtain ⟨old', there', same'⟩ := known other member'
    have id : old.partId = old'.partId :=
      (congrArg PartIdentity.partId same).symm.trans
        (id.trans (congrArg PartIdentity.partId same'))
    rw [same, same', routed.one old there old' there' id]
  · intro row member
    obtain ⟨old, there, same⟩ := known row member
    rw [same]
    exact (routed.placed old there).append

theorem RowsRouted.create (routed : RowsRouted rows) (named : part.partId ≠ "")
    (fresh : ∀ row ∈ rows, row.partId ≠ part.partId) (placed : Placed rows part.identity) :
    RowsRouted (rows ++ [part]) := by
  refine ⟨?_, ?_, ?_⟩
  · intro row member
    rcases Serial.of_mem_concat member with old | rfl
    · exact routed.named row old
    · exact named
  · intro row member other member' id
    rcases List.mem_append.mp member with old | own
    · rcases List.mem_append.mp member' with old' | own'
      · exact routed.one row old other old' id
      · rw [List.mem_singleton.mp own'] at id
        exact absurd id (fresh row old)
    · rcases List.mem_append.mp member' with old' | own'
      · rw [List.mem_singleton.mp own] at id
        exact absurd id.symm (fresh other old')
      · rw [List.mem_singleton.mp own, List.mem_singleton.mp own']
  · intro row member
    rcases Serial.of_mem_concat member with old | rfl
    · exact (routed.placed row old).append
    · exact placed.append

theorem RowsRouted.oldest (routed : RowsRouted rows) (lineage : Lineage rows part operations)
    (oldest : part.parentPartId = "") : operations = [part.currentOperation] := by
  cases lineage with
  | first => rfl
  | next before _ of => exact absurd (of.symm.trans oldest) (routed.named _ before.written)

theorem RowsRouted.along (routed : RowsRouted rows) (lineage : Lineage rows part operations) :
    operations <+: routeAfterTurning part.productCode := by
  rcases routed.placed part lineage.written with milled | ground
  · rw [routed.oldest lineage milled.oldest]
    have operation : part.currentOperation = "milling" := milled.operation
    rw [operation]
    rcases routeAfterTurning_milling milled.route with route | route
    · exact ⟨[], route.symm⟩
    · exact ⟨["grinding"], route.symm⟩
  · obtain ⟨parent, there, of, milled⟩ := ground.parent
    cases lineage with
    | first _ first => exact absurd (of.symm.trans first) (routed.named parent there)
    | next before _ of' =>
      have same := routed.one _ before.written parent there (of'.symm.trans of)
      rw [← same] at milled
      rw [routed.oldest before milled.oldest]
      have first := milled.operation
      have second := ground.operation
      have route := ground.route
      unfold PartQueueItem.identity at first second route
      dsimp only at first second route
      rw [first, second, route]
      exact List.prefix_refl _

theorem RowsRouted.follow (routed : RowsRouted rows)
    (ended : ∀ row ∈ rows, row.status = .completed → PartEnded rows row) : FollowRoutes rows where
  along _ _ lineage := routed.along lineage
  complete part there completed alone := by
    rcases ended part there completed with ⟨child, member, of⟩ | last
    · exact absurd of (alone child member)
    · exact last

end MiniOgas
