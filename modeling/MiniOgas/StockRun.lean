import MiniOgas.Genealogy

namespace MiniOgas

open Relational Serial Journal

variable {env : StockEnv} {db db' : StockStore} {tables tables' : StockTables} {actor : String}
  {response : Json} {lot : LotFact} {location : Option (Nat × InventoryLocation)}
  {container : Option (Nat × MaterialContainer)} {pending : StockKey → Quantity}
  {payload : TransformationIn}

theorem resolveContainer_eq_ok {code : Option String}
    (h : resolveContainer tables code location = .ok container) :
    Known tables container ∧ ∀ entry ∈ container,
      entry.2.status = .active ∧ location.map (·.1) = some entry.2.locationId := by
  cases code with
  | none =>
    cases h
    exact ⟨known_none, nofun⟩
  | some code =>
    obtain ⟨⟨id, found⟩, hfound, h⟩ := of_bind h
    obtain ⟨_, active, h⟩ := of_bind h
    obtain ⟨_, placed, h⟩ := of_bind h
    cases h
    refine ⟨fun entry member => ?_, fun entry member => ?_⟩
    · cases member
      exact (Table.first?_spec (orFault_eq_ok.mp hfound)).1
    · cases member
      exact ⟨check_eq_ok.mp active, check_eq_ok.mp placed⟩

theorem Known.of_containers (known : Known tables container)
    (same : tables'.containers = tables.containers) : Known tables' container := by
  unfold Known
  rw [same]
  exact known

theorem Matched.applyEnd {delta : Quantity} (matched : Matched tables pending)
    (known : Known tables container)
    (h : MiniOgas.applyEnd env tables lot location container delta = .ok tables') :
    Matched tables' (fun k => pending k +
        posting (endKey lot.id (location.map (·.1)) (container.map (·.1))) delta k) ∧
      tables'.containers = tables.containers := by
  cases location with
  | none =>
    cases h
    exact ⟨by simpa [endKey] using matched, rfl⟩
  | some location =>
    obtain ⟨⟨quantity, posted⟩, happly, h⟩ := of_bind h
    cases h
    exact matched.applyBalanceDelta known happly

theorem recordMovement_matched {payload : MovementIn} (matched : Matched db.tables fun _ => 0)
    (h : recordMovement env db actor payload = .ok (response, db')) :
    Matched db'.tables fun _ => 0 := by
  rcases recordMovement_writes h with rfl |
    ⟨lot, source, target, left, entered, issued, received, movement, hleft, hentered, hissued,
      hreceived, -, filed, hrecorded⟩
  · exact matched
  have knownTo := (resolveContainer_eq_ok hentered).1
  obtain ⟨matchedIssued, same⟩ := matched.applyEnd (resolveContainer_eq_ok hleft).1 hissued
  obtain ⟨matchedReceived, -⟩ := matchedIssued.applyEnd (knownTo.of_containers same) hreceived
  refine (matchedReceived.insertMovement (fun k => ?_) hrecorded).1
  simp only [Entry.inflow, Entry.outflow, filed, posting_neg]
  abel

theorem resolveTransformationLeg_known {leg : TransformationLegIn} {resolved : TransformationLeg}
    (h : resolveTransformationLeg env tables leg = .ok resolved) :
    Known tables resolved.container := by
  obtain ⟨lot, -, h⟩ := of_bind h
  obtain ⟨location, -, h⟩ := of_bind h
  obtain ⟨container, hcontainer, h⟩ := of_bind h
  replace h := of_then (of_then (of_then h))
  cases h
  exact (resolveContainer_eq_ok hcontainer).1

theorem Matched.postLeg {direction : Direction} {leg : TransformationLeg × Nat}
    (matched : Matched tables fun _ => 0) (known : Known tables leg.1.container)
    (h : MiniOgas.postLeg env actor payload direction tables leg = .ok tables') :
    Matched tables' (fun _ => 0) ∧ tables'.containers = tables.containers := by
  obtain ⟨⟨quantity, posted⟩, happly, h⟩ := of_bind h
  obtain ⟨matchedPosted, same⟩ := matched.applyBalanceDelta known happly
  have owed : ∀ k, (0 : Quantity) + posting (some (leg.1.lot.id, leg.1.location.1,
      leg.1.container.map (·.1)))
        (if direction = .into then -leg.1.quantity else leg.1.quantity) k =
      0 + ((legMovement env actor payload direction (leg.2 + 1) leg.1).entry.inflow k -
        (legMovement env actor payload direction (leg.2 + 1) leg.1).entry.outflow k) := by
    cases direction with
    | into => simp [Entry.inflow, Entry.outflow, InventoryMovement.entry, legMovement, endKey,
        posting_neg]
    | out => simp [Entry.inflow, Entry.outflow, InventoryMovement.entry, legMovement, endKey]
  obtain ⟨matchedRecorded, same'⟩ := matchedPosted.insertMovement owed h
  exact ⟨matchedRecorded, same'.trans same⟩

theorem Matched.postLegs {direction : Direction} {legs : List TransformationLeg}
    (matched : Matched tables fun _ => 0) (known : ∀ leg ∈ legs, Known tables leg.container)
    (h : legs.zipIdx.foldlM (MiniOgas.postLeg env actor payload direction) tables = .ok tables') :
    Matched tables' (fun _ => 0) ∧ tables'.containers = tables.containers := by
  refine foldlM_invariant (I := fun t => Matched t (fun _ => 0) ∧
    t.containers = tables.containers) ?_ ⟨matched, rfl⟩ h
  intro t leg t' hleg ⟨matched, same⟩ hpost
  have known := known leg.1 (List.fst_mem_of_mem_zipIdx hleg)
  obtain ⟨matched', same'⟩ := matched.postLeg (known.of_containers same) hpost
  exact ⟨matched', same'.trans same⟩

theorem recordTransformation_matched (matched : Matched db.tables fun _ => 0)
    (h : recordTransformation env db actor payload = .ok (response, db')) :
    Matched db'.tables fun _ => 0 := by
  rcases recordTransformation_eq_ok h with rfl | ⟨inputs, outputs, produced, edges, passes, -, hdb⟩
  · exact matched
  obtain ⟨row, consumed, hinputs, houtputs, -, -, hconsumed, hproduced⟩ :=
    passOtherChecks_writes passes
  have knownIn : ∀ leg ∈ inputs, Known db.tables leg.container := by
    intro leg hleg
    obtain ⟨_, -, hresolve⟩ := mapM_mem hinputs hleg
    exact resolveTransformationLeg_known hresolve
  have knownOut : ∀ leg ∈ outputs, Known db.tables leg.container := by
    intro leg hleg
    obtain ⟨_, -, hresolve⟩ := mapM_mem houtputs hleg
    exact resolveTransformationLeg_known hresolve
  have started : Matched { db.tables with
      transformations := db.tables.transformations.insert row } fun _ => 0 :=
    matched.of_eq rfl rfl rfl
  obtain ⟨matchedConsumed, same⟩ := started.postLegs knownIn hconsumed
  obtain ⟨matchedProduced, -⟩ := matchedConsumed.postLegs
    (fun leg hleg => (knownOut leg hleg).of_containers same) hproduced
  rw [hdb]
  exact matchedProduced.of_eq rfl rfl rfl

section StockSteps

open Relational Serial Journal

variable {env : StockEnv} {db db' : StockStore} {tables : StockTables} {actor : String}
  {response : Json} {payload : ReconciliationAdjustmentIn}

theorem adjustCase_matched {id : Nat} {fact : CaseFact} {outcome : StockOutcome}
    (matched : Matched tables fun _ => 0)
    (h : adjustCase env actor tables id fact payload = .ok outcome) :
    Matched outcome.tables fun _ => 0 := by
  obtain ⟨lot, location, container, quantity, adjusted, recorded, row, -, -, hcontainer, -, varies,
    happly, hrecorded, -, -, written⟩ := adjustCase_writes h
  rw [written]
  obtain ⟨matchedAdjusted, -⟩ :=
    matched.applyBalanceDelta (resolveContainer_eq_ok hcontainer).1 happly
  generalize hdelta : fact.row.delta = delta at *
  have nonzero : delta ≠ 0 := by
    rintro rfl
    simp [sameQuantity] at varies
  -- a shortage leaves the location, a surplus enters it
  have owed : ∀ k,
      (0 : Quantity) + posting (some (lot.id, location.1, container.map (·.1))) delta k =
      0 + ((adjustmentMovement env actor payload id lot location.1 (container.map (·.1))
          delta).entry.inflow k -
        (adjustmentMovement env actor payload id lot location.1 (container.map (·.1))
          delta).entry.outflow k) := by
    rcases lt_or_gt_of_ne nonzero with short | surplus
    · simp [Entry.inflow, Entry.outflow, InventoryMovement.entry, adjustmentMovement, endKey, short,
        short.le.not_gt, posting_neg]
    · simp [Entry.inflow, Entry.outflow, InventoryMovement.entry, adjustmentMovement, endKey,
        surplus, surplus.le.not_gt]
  exact (matchedAdjusted.insertMovement owed hrecorded).1.of_eq rfl rfl rfl

theorem adjustReconciliation_matched {id : Nat} (matched : Matched db.tables fun _ => 0)
    (h : adjustReconciliation env db actor id payload = .ok (response, db')) :
    Matched db'.tables fun _ => 0 := by
  obtain ⟨fact, -, ⟨-, rfl⟩ | ⟨-, outcome, h, hdb⟩⟩ := adjustReconciliation_eq_ok h
  · exact matched
  · rw [← hdb]
    exact adjustCase_matched matched h

theorem Matched.insert_container {new : MaterialContainer}
    (matched : Matched tables fun _ => 0)
    (fresh : tables.containers.any (·.containerCode = new.containerCode) = false)
    (coded : new.containerCode ≠ "") :
    Matched { tables with containers := tables.containers.insert new } fun _ => 0 := by
  obtain ⟨⟨codes, old, placed, keyed, nonneg⟩, ahead⟩ := matched
  refine ⟨⟨codes.insert ?_, ?_, ?_, keyed, nonneg⟩, ahead⟩
  · intro id container found
    simpa using Table.any_eq_false_iff.mp fresh id container found
  · exact Table.forall_insert coded old
  · intro id balance found
    obtain ⟨container, known, hid, hkey⟩ := placed id balance found
    exact ⟨container, fun entry hentry => Table.find?_insert_of_find? new (known entry hentry),
      hid, hkey⟩

theorem code_ne_empty (code : Code) : code.value ≠ "" := by
  intro h
  have := code.matchesPattern
  rw [h] at this
  exact absurd this (by decide)

theorem createContainer_matched {payload : ContainerIn} (matched : Matched db.tables fun _ => 0)
    (h : createContainer env db actor payload = .ok (response, db')) :
    Matched db'.tables fun _ => 0 := by
  obtain ⟨outcome, hbody, hdb⟩ := stocked_tables h
  rw [← hdb]
  obtain ⟨location, -, hbody⟩ := of_bind hbody
  obtain ⟨containers, hinsert, hbody⟩ := of_bind hbody
  cases hbody
  obtain ⟨fresh, rfl⟩ := insertMaterial_eq_ok.mp hinsert
  exact matched.insert_container fresh (code_ne_empty payload.containerCode)

theorem perform_matched {operation : StockOperation} (matched : Matched db.tables fun _ => 0)
    (h : operation.perform env actor db = .ok (response, db')) : Matched db'.tables fun _ => 0 := by
  cases operation with
  | createContainer payload => exact createContainer_matched matched h
  | recordMovement payload => exact recordMovement_matched matched h
  | recordTransformation payload => exact recordTransformation_matched matched h
  | importExternalSnapshot payload =>
    obtain ⟨_, _, same⟩ := importExternalSnapshot_tables h
    rw [same]
    exact matched.of_eq rfl rfl rfl
  | adjustReconciliation id payload => exact adjustReconciliation_matched matched h
  | closeLot lotId =>
    cases h
    exact matched.of_eq rfl rfl rfl
  | createWarehouse | createLocation | createLot =>
    simp only [StockOperation.perform, createWarehouse, createLocation, createLot] at h
    obtain ⟨outcome, hbody, hdb⟩ := stocked_tables h
    rw [← hdb]
    repeat obtain ⟨_, -, hbody⟩ := of_bind hbody
    cases hbody
    exact matched.of_eq rfl rfl rfl

theorem matched_run (calls : List StockCall) :
    Matched (stockAuthority.run .empty calls).tables fun _ => 0 :=
  Authority.invariant (I := fun db : StockStore => Matched db.tables fun _ => 0)
    (fun kept h => perform_matched kept h) calls matched_empty

end StockSteps

open Relational Serial Journal

def StockTables.movedIn (tables : StockTables) (lotId locationId : Nat)
    (containerId : Option Nat) : Quantity :=
  tables.movements.sum (fun movement => movement.lotId = lotId &&
    movement.toLocationId = some locationId && movement.toContainerId = containerId) (·.quantity)

def StockTables.movedOut (tables : StockTables) (lotId locationId : Nat)
    (containerId : Option Nat) : Quantity :=
  tables.movements.sum (fun movement => movement.lotId = lotId &&
    movement.fromLocationId = some locationId && movement.fromContainerId = containerId)
    (·.quantity)

structure StockReconciled (tables : StockTables) : Prop where
  placed : ∀ id balance, tables.balances.find? id = some balance →
    ∃ container, Known tables container ∧ balance.containerId = container.map (·.1) ∧
      balance.containerKey = containerKey container
  single : ∀ i j a b, tables.balances.find? i = some a → tables.balances.find? j = some b →
    a.lotId = b.lotId → a.locationId = b.locationId → a.containerKey = b.containerKey → i = j
  balance_eq : ∀ lotId locationId container, Known tables container →
    balanceQuantity tables lotId locationId (containerKey container) =
      tables.movedIn lotId locationId (container.map (·.1)) -
        tables.movedOut lotId locationId (container.map (·.1))
  nonneg : ∀ id balance, tables.balances.find? id = some balance → 0 ≤ balance.quantity

theorem endKey_eq_some {lot lotId locationId : Nat}
    {placeId container containerId : Option Nat} :
    endKey lot placeId container = some (lotId, locationId, containerId) ↔
      lot = lotId ∧ placeId = some locationId ∧ container = containerId := by
  cases placeId with
  | none => simp [endKey]
  | some id => simp [endKey]

theorem net_journal (tables : StockTables) (lotId locationId : Nat) (containerId : Option Nat) :
    net tables.journal (lotId, locationId, containerId) =
      tables.movedIn lotId locationId containerId -
        tables.movedOut lotId locationId containerId := by
  simp only [net, StockTables.movedIn, StockTables.movedOut, Table.sum_eq_map, StockTables.journal,
    List.map_map, Function.comp_def, Entry.inflow, Entry.outflow, posting, InventoryMovement.entry,
    endKey_eq_some, Bool.and_eq_true, decide_eq_true_eq, and_assoc]

/-- In every run a balance is what the movements have left there, and never negative. -/
theorem stockReconciled_run (calls : List StockCall) :
    StockReconciled (stockAuthority.run .empty calls).tables := by
  obtain ⟨sound, ahead⟩ := matched_run calls
  refine ⟨sound.placed, ?_, ?_, sound.nonneg⟩
  · intro i j a b hi hj hlot hlocation hkey
    obtain ⟨container, known, hid, hcode⟩ := sound.placed i a hi
    have same : a.key = b.key := by
      have hb : b.key = (b.lotId, b.locationId, container.map (·.1)) := by
        rw [← sound.isAt_iff known hj]
        simp [InventoryBalance.isAt, ← hkey, hcode]
      rw [hb, ← hid, ← hlot, ← hlocation]
      rfl
    exact sound.keyed i j a b hi hj same
  · intro lotId locationId container known
    rw [sound.balanceQuantity_eq known, ahead, net_journal, add_zero]

end MiniOgas
