import MiniOgas.StockRun
import MiniOgas.GenealogyLaws
import MiniOgas.StatusHistory
import MiniOgas.RoundingLaws

namespace MiniOgas

open Relational Serial

variable {env : StockEnv} {tables tables' : StockTables} {lot : LotFact}
  {location : Nat × InventoryLocation} {container : Option (Nat × MaterialContainer)}
  {x q delta : Quantity} {db db' : StockStore} {actor : String} {response : Json}

/-- An outbound quantity within the tolerance empties the balance, and a greater one is refused by
a transaction that leaves every table as it was. -/
def RoundingAbsorbed (env : StockEnv) (tables : StockTables) (lot : LotFact)
    (location : Nat × InventoryLocation) (container : Option (Nat × MaterialContainer))
    (q x : Quantity) : Prop :=
  (q < x → x ≤ q + 1 / 1000000000 → ∃ tables',
    applyBalanceDelta env tables lot location container (-x) = .ok (0, tables') ∧
      balanceQuantity tables' lot.id location.1 (containerKey container) = 0) ∧
  (q + 1 / 1000000000 < x → ∃ context, ∀ db actor rest, db.tables = tables →
    stocked env db actor (fun tables =>
      applyBalanceDelta env tables lot location container (-x) >>= rest) =
        .error (materialError 409 "NEGATIVE_INVENTORY"
          "material movement would make inventory or WIP negative" context))

theorem ensureBalance_first? (env : StockEnv) (tables : StockTables) (lot : LotFact)
    (locationId : Nat) (container : Option (Nat × MaterialContainer)) :
    ∃ id balance, (ensureBalance env tables lot locationId container).first?
        (·.isAt lot.id locationId (containerKey container)) = some (id, balance) ∧
      balance.quantity =
        balanceQuantity tables lot.id locationId (containerKey container) := by
  unfold ensureBalance balanceQuantity
  cases found : tables.balances.first? (·.isAt lot.id locationId (containerKey container)) with
  | some entry =>
    obtain ⟨there, isAt⟩ := Table.first?_spec found
    rw [if_pos (Table.any_iff.mpr ⟨_, _, there, isAt⟩)]
    exact ⟨entry.1, entry.2, found, rfl⟩
  | none =>
    rw [if_neg (by simpa using
      Table.any_eq_false_iff.mpr (Table.first?_eq_none_iff.mp found)), Table.first?_insert, found]
    exact ⟨_, _, if_pos (by simp [InventoryBalance.isAt]), rfl⟩

/-- What takes more than there is either meets the table's own constraint or is refused. -/
theorem applyBalanceDelta_below
    (stored : balanceQuantity tables lot.id location.1 (containerKey container) = q)
    (nonneg : 0 ≤ q) (more : q < x) (guard : guardSerialBalance tables lot 0 0 = .ok ()) :
    applyBalanceDelta env tables lot location container (-x) =
      if x ≤ q + 1 / 1000000000 then .error (.database "CHECK constraint failed: quantity >= 0")
      else .error (negativeInventory { tables with
        balances := ensureBalance env tables lot location.1 container } lot location
          (containerKey container) (-x)) := by
  obtain ⟨id, balance, first, quantity⟩ := ensureBalance_first? env tables lot location.1 container
  unfold applyBalanceDelta
  dsimp only [round_exact]
  rw [check, if_pos fun out => by linarith [out.1], ok_bind, guard, ok_bind]
  rw [first, orFault, ok_bind]
  by_cases within : x ≤ q + 1 / 1000000000
  · rw [if_pos within, check, if_pos (by linarith), ok_bind, check, if_neg (by linarith)]
    rfl
  · rw [if_neg within, check, if_neg (by linarith)]
    rfl

/-- An outbound quantity that the update tolerates is rejected by the table, so that rounding is
absorbed exactly where there is none to absorb. -/
theorem rounding_absorbed_iff
    (stored : balanceQuantity tables lot.id location.1 (containerKey container) = q)
    (nonneg : 0 ≤ q) :
    RoundingAbsorbed env tables lot location container q x ↔
      ¬(q < x ∧ x ≤ q + 1 / 1000000000) ∧
        (q + 1 / 1000000000 < x → guardSerialBalance tables lot 0 0 = .ok ()) := by
  constructor
  · rintro ⟨absorbed, refused⟩
    refine ⟨fun ⟨more, within⟩ => ?_, fun beyond => ?_⟩
    · obtain ⟨tables', done, -⟩ := absorbed more within
      obtain ⟨_, -, h⟩ := of_bind done
      obtain ⟨_, guard, -⟩ := of_bind h
      rw [applyBalanceDelta_below stored nonneg more guard, if_pos within] at done
      cases done
    · obtain ⟨context, failed⟩ := refused beyond
      have failed := failed ⟨tables, .empty⟩ "" (fun _ => .error (.runtime "")) rfl
      cases guard : guardSerialBalance tables lot 0 0 with
      | ok => rfl
      | error fault =>
        have raised : applyBalanceDelta env tables lot location container (-x) = .error fault := by
          unfold applyBalanceDelta
          dsimp only
          rw [check, if_pos fun out => by linarith [out.1], ok_bind, guard]
          rfl
        rw [stocked, raised] at failed
        cases (Except.error.inj failed).symm.trans (check_eq_error guard)
  · rintro ⟨outside, guard⟩
    refine ⟨fun more within => absurd ⟨more, within⟩ outside, fun beyond => ?_⟩
    obtain ⟨context, named⟩ : ∃ context, negativeInventory { tables with
        balances := ensureBalance env tables lot location.1 container } lot location
          (containerKey container) (-x) = materialError 409 "NEGATIVE_INVENTORY"
            "material movement would make inventory or WIP negative" context := ⟨_, rfl⟩
    refine ⟨context, fun db actor rest same => ?_⟩
    rw [stocked, same, applyBalanceDelta_below stored nonneg (by linarith) (guard beyond),
      if_neg (by linarith), named]
    rfl

/-- A lot, a location and a balance of one unit. -/
def sampleUnit : StockTables :=
  { StockTables.empty with
    balances := Table.empty.insert ⟨1, 1, 1, 1, none, "", 1, 0⟩ }

def sampleUnitLot : LotFact :=
  ⟨1, ⟨"LOT-1", 1, 1, .lot, .active, "E-1", "operator", 0⟩, ⟨"MAT-1", 1⟩, ⟨"kg", "mass", 1⟩⟩

def sampleUnitPlace : Nat × InventoryLocation :=
  (1, ⟨"LOC-1", 1, "storage", .storage, true, "operator", 0⟩)

theorem sampleUnit_quantity :
    balanceQuantity sampleUnit sampleUnitLot.id sampleUnitPlace.1 (containerKey none) = 1 := by
  decide +kernel

/-- Half of the tolerance is not absorbed. -/
theorem tolerated_rounding_rejected :
    ¬RoundingAbsorbed sampleStockEnv sampleUnit sampleUnitLot sampleUnitPlace none 1
      (1 + 1 / 2000000000) := by
  rintro ⟨absorbed, -⟩
  obtain ⟨tables', done, -⟩ := absorbed (by norm_num) (by norm_num)
  rw [applyBalanceDelta_below sampleUnit_quantity (by norm_num) (by norm_num) rfl,
    if_pos (by norm_num)] at done
  cases done

theorem two_units_refused :
    RoundingAbsorbed sampleStockEnv sampleUnit sampleUnitLot sampleUnitPlace none 1 2 ↔
      ¬((1 : Quantity) < 2 ∧ (2 : Quantity) ≤ 1 + 1 / 1000000000) ∧
        ((1 : Quantity) + 1 / 1000000000 < 2 →
          guardSerialBalance sampleUnit sampleUnitLot 0 0 = .ok ()) :=
  rounding_absorbed_iff sampleUnit_quantity (by norm_num)

/-- The operations that move stock write the balances, the movements and the transformations. -/
def Posted (tables tables' : StockTables) : Prop :=
  ∃ balances movements transformations genealogyEdges,
    tables' = { tables with balances, movements, transformations, genealogyEdges }

theorem Posted.trans {a b c : StockTables} (first : Posted a b) (second : Posted b c) :
    Posted a c := by
  obtain ⟨_, _, _, _, rfl⟩ := first
  obtain ⟨_, _, _, _, rfl⟩ := second
  exact ⟨_, _, _, _, rfl⟩

theorem applyBalanceDelta_balance [Arithmetic]
    (h : applyBalanceDelta env tables lot location container delta = .ok (q, tables')) :
    balanceQuantity tables' lot.id location.1 (containerKey container) =
      Arithmetic.round
        (balanceQuantity tables lot.id location.1 (containerKey container) + delta) := by
  obtain ⟨id, balance, first, stored⟩ := ensureBalance_first? env tables lot location.1 container
  replace h := of_then (of_then h)
  obtain ⟨entry, found, h⟩ := of_bind h
  cases first.symm.trans (orFault_eq_ok.mp found)
  replace h := of_then h
  obtain ⟨_, nonneg, h⟩ := of_bind h
  replace h := of_then h
  dsimp only at h
  rw [if_neg fun clamp => not_le.mpr clamp.1 (check_eq_ok.mp nonneg)] at h
  cases h
  rw [← stored, balanceQuantity, Table.first?_set first]
  · rfl
  · exact (Table.first?_spec first).2

theorem applyBalanceDelta_posted [Arithmetic]
    (h : applyBalanceDelta env tables lot location container delta = .ok (q, tables')) :
    Posted tables tables' := by
  obtain ⟨_, -, h⟩ := of_bind h
  obtain ⟨_, -, h⟩ := of_bind h
  obtain ⟨_, -, h⟩ := of_bind h
  obtain ⟨_, -, h⟩ := of_bind h
  obtain ⟨_, -, h⟩ := of_bind h
  obtain ⟨_, -, h⟩ := of_bind h
  dsimp only at h
  split at h
  next =>
    cases h
    exact ⟨_, _, _, _, rfl⟩
  next =>
    cases h
    exact ⟨_, _, _, _, rfl⟩

theorem applyEnd_posted [Arithmetic] {place : Option (Nat × InventoryLocation)}
    (h : applyEnd env tables lot place container delta = .ok tables') : Posted tables tables' := by
  cases place with
  | none =>
    cases h
    exact ⟨_, _, _, _, rfl⟩
  | some location =>
    obtain ⟨⟨quantity, posted⟩, happly, h⟩ := of_bind h
    cases h
    exact applyBalanceDelta_posted happly

theorem insertMovement_tables {movement : InventoryMovement}
    (h : insertMovement env tables movement = .ok tables') :
    tables' = { tables with movements := tables.movements.insert movement } := by
  replace h := of_then (of_then (of_then h))
  obtain ⟨movements, hinsert, h⟩ := of_bind h
  obtain ⟨-, rfl⟩ := insertMaterial_eq_ok.mp hinsert
  cases h
  rfl

theorem insertMovement_posted {movement : InventoryMovement}
    (h : insertMovement env tables movement = .ok tables') : Posted tables tables' :=
  ⟨_, _, _, _, insertMovement_tables h⟩

theorem postLegs_posted [Arithmetic] {payload : TransformationIn} {direction : Direction}
    {legs : List (TransformationLeg × Nat)}
    (h : legs.foldlM (postLeg env actor payload direction) tables = .ok tables') :
    Posted tables tables' := by
  refine foldlM_invariant (I := Posted tables) ?_ ⟨_, _, _, _, rfl⟩ h
  intro t leg t' _ posted hstep
  obtain ⟨⟨quantity, applied⟩, happly, hstep⟩ := of_bind hstep
  exact (posted.trans (applyBalanceDelta_posted happly)).trans (insertMovement_posted hstep)

theorem recordMovement_posted [Arithmetic] {payload : MovementIn}
    (h : recordMovement env db actor payload = .ok (response, db')) :
    Posted db.tables db'.tables := by
  rcases recordMovement_writes h with rfl |
    ⟨lot, source, target, left, entered, issued, received, movement, -, -, hissued, hreceived,
      -, -, hrecorded⟩
  · exact ⟨_, _, _, _, rfl⟩
  · exact ((applyEnd_posted hissued).trans (applyEnd_posted hreceived)).trans
      (insertMovement_posted hrecorded)

theorem recordTransformation_posted [Arithmetic] {payload : TransformationIn}
    (h : recordTransformation env db actor payload = .ok (response, db')) :
    Posted db.tables db'.tables := by
  rcases recordTransformation_eq_ok h with rfl | ⟨inputs, outputs, produced, edges, passes, -, hdb⟩
  · exact ⟨_, _, _, _, rfl⟩
  obtain ⟨row, consumed, -, -, -, -, hconsumed, hproduced⟩ := passOtherChecks_writes passes
  obtain ⟨_, _, _, _, rfl⟩ := (postLegs_posted hconsumed).trans (postLegs_posted hproduced)
  exact ⟨_, _, _, _, hdb⟩

/-- The lot, the location and the container of a case are there and in use. -/
structure ReconciliationCase.Stands [Arithmetic] (row : ReconciliationCase) (tables : StockTables) :
    Prop where
  lot : (tables.lots.find? row.lotId).isSome = true
  variance : row.variance = row.delta
  placed : ∃ location container, tables.locations.find? row.locationId = some location ∧
    location.active = true ∧ (tables.warehouses.find? location.warehouseId).isSome = true ∧
    Known tables container ∧ row.containerId = container.map (·.1) ∧
    row.containerKey = MiniOgas.containerKey container ∧
    ∀ entry ∈ container,
      entry.2.status = .active ∧ some row.locationId = some entry.2.locationId

structure CasesSound [Arithmetic] (tables : StockTables) : Prop where
  lots : tables.lots.Keyed MaterialLot.lotCode
  locations : tables.locations.Keyed InventoryLocation.locationCode
  containers : tables.containers.Keyed MaterialContainer.containerCode
  stands : ∀ id row, tables.reconciliationCases.find? id = some row → row.Stands tables

def CasesSettled (tables tables' : StockTables) : Prop :=
  ∀ id row, tables.reconciliationCases.find? id = some row → row.status ≠ .open →
    tables'.reconciliationCases.find? id = some row

theorem casesSound_empty [Arithmetic] : CasesSound .empty where
  lots := Table.keyed_empty
  locations := Table.keyed_empty
  containers := Table.keyed_empty
  stands := fun _ _ found => by simp [StockTables.empty] at found

variable {row : ReconciliationCase} {code : Option String}

structure Grown (tables tables' : StockTables) : Prop where
  lots : ∀ id, (tables.lots.find? id).isSome = true → (tables'.lots.find? id).isSome = true
  locations : ∀ id location, tables.locations.find? id = some location →
    tables'.locations.find? id = some location
  warehouses : ∀ id, (tables.warehouses.find? id).isSome = true →
    (tables'.warehouses.find? id).isSome = true
  containers : ∀ id container, tables.containers.find? id = some container →
    tables'.containers.find? id = some container

theorem ReconciliationCase.Stands.grown [Arithmetic] (stands : row.Stands tables)
    (grown : Grown tables tables') : row.Stands tables' := by
  obtain ⟨location, container, found, active, warehouse, known, rest⟩ := stands.placed
  exact ⟨grown.lots _ stands.lot, stands.variance, location, container,
    grown.locations _ _ found, active, grown.warehouses _ warehouse,
    fun entry member => grown.containers _ _ (known entry member), rest⟩

theorem CasesSound.grown [Arithmetic] (sound : CasesSound tables) (grown : Grown tables tables')
    (lots : tables'.lots.Keyed MaterialLot.lotCode)
    (locations : tables'.locations.Keyed InventoryLocation.locationCode)
    (containers : tables'.containers.Keyed MaterialContainer.containerCode)
    (same : tables'.reconciliationCases = tables.reconciliationCases) :
    CasesSound tables' ∧ CasesSettled tables tables' := by
  refine ⟨⟨lots, locations, containers, fun id row found => ?_⟩, fun id row found _ => ?_⟩
  · rw [same] at found
    exact (sound.stands id row found).grown grown
  · rw [same]
    exact found

theorem CasesSound.posted [Arithmetic] (sound : CasesSound tables)
    (posted : Posted tables tables') : CasesSound tables' ∧ CasesSettled tables tables' := by
  obtain ⟨_, _, _, _, rfl⟩ := posted
  exact sound.grown ⟨fun _ h => h, fun _ _ h => h, fun _ h => h, fun _ _ h => h⟩ sound.lots
    sound.locations sound.containers rfl

theorem requireLot_eq_ok {code : String} (h : requireLot env tables code = .ok lot) :
    tables.lots.find? lot.id = some lot.row ∧ lot.row.lotCode = code := by
  obtain ⟨⟨id, row⟩, found, h⟩ := of_bind h
  obtain ⟨material, -, h⟩ := of_bind h
  obtain ⟨uom, -, h⟩ := of_bind h
  cases h
  obtain ⟨found, named⟩ := Table.first?_spec (orFault_eq_ok.mp found)
  exact ⟨found, of_decide_eq_true named⟩

theorem requireLocation_eq_ok {code : String} (h : requireLocation tables code = .ok location) :
    tables.locations.find? location.1 = some location.2 ∧ location.2.active = true ∧
      (tables.warehouses.find? location.2.warehouseId).isSome = true := by
  obtain ⟨⟨id, row⟩, found, h⟩ := of_bind h
  obtain ⟨warehouse, stored, h⟩ := of_bind h
  obtain ⟨_, active, h⟩ := of_bind h
  cases h
  obtain ⟨found, -⟩ := Table.first?_spec (orFault_eq_ok.mp found)
  exact ⟨found, check_eq_ok.mp active, by rw [orFault_eq_ok.mp stored]; rfl⟩

theorem CasesSound.compareItem [Arithmetic] {payload : ExternalSnapshotIn} {importId : Nat}
    {item : ExternalSnapshotItemIn × Nat} (sound : CasesSound tables)
    (h : compareItem env payload importId tables item = .ok tables') :
    CasesSound tables' ∧ CasesSettled tables tables' := by
  obtain ⟨lot, hlot, h⟩ := of_bind h
  obtain ⟨location, hlocation, h⟩ := of_bind h
  obtain ⟨container, hcontainer, h⟩ := of_bind h
  dsimp only at h
  split at h
  next =>
    cases h
    exact ⟨sound, fun _ _ found _ => found⟩
  next =>
    obtain ⟨reconciliationCases, hinsert, h⟩ := of_bind h
    cases h
    obtain ⟨-, rfl⟩ := insertMaterial_eq_ok.mp hinsert
    refine ⟨{ sound with stands := fun id row found => ?_ },
      fun id row found _ => Table.find?_insert_of_find? _ found⟩
    dsimp only at found
    rcases Table.of_find?_insert found with ⟨-, rfl⟩ | found
    · obtain ⟨found, active, warehouse⟩ := requireLocation_eq_ok hlocation
      obtain ⟨known, usable⟩ := resolveContainer_eq_ok hcontainer
      exact ⟨by rw [(requireLot_eq_ok hlot).1]; rfl, rfl, location.2, container, found, active,
        warehouse, known, rfl, rfl, usable⟩
    · exact (sound.stands id row found).grown
        ⟨fun _ h => h, fun _ _ h => h, fun _ h => h, fun _ _ h => h⟩

theorem CasesSound.import [Arithmetic] {payload : ExternalSnapshotIn} (sound : CasesSound db.tables)
    (h : importExternalSnapshot env db actor payload = .ok (response, db')) :
    CasesSound db'.tables ∧ CasesSettled db.tables db'.tables := by
  rcases replayed_eq_ok h with ⟨-, rfl⟩ | ⟨-, h⟩
  · exact ⟨sound, fun _ _ found _ => found⟩
  obtain ⟨outcome, h, hdb⟩ := stocked_tables h
  rw [← hdb]
  obtain ⟨externalImports, -, h⟩ := of_bind h
  obtain ⟨compared, hcompared, h⟩ := of_bind h
  cases h
  have started : CasesSound { db.tables with externalImports } ∧
      CasesSettled db.tables { db.tables with externalImports } :=
    sound.grown ⟨fun _ h => h, fun _ _ h => h, fun _ h => h, fun _ _ h => h⟩ sound.lots
      sound.locations sound.containers rfl
  refine foldlM_invariant (I := fun t => CasesSound t ∧ CasesSettled db.tables t) ?_ started
    hcompared
  intro t item t' _ ⟨sound, settled⟩ hstep
  obtain ⟨sound', settled'⟩ := sound.compareItem hstep
  exact ⟨sound', fun id row found closed => settled' id row (settled id row found closed) closed⟩

theorem CasesSound.adjust [Arithmetic] {id : Nat} {payload : ReconciliationAdjustmentIn}
    (sound : CasesSound db.tables)
    (h : adjustReconciliation env db actor id payload = .ok (response, db')) :
    CasesSound db'.tables ∧ CasesSettled db.tables db'.tables := by
  obtain ⟨fact, -, ⟨-, rfl⟩ | ⟨-, outcome, h, hdb⟩⟩ := adjustReconciliation_eq_ok h
  · exact ⟨sound, fun _ _ found _ => found⟩
  obtain ⟨lot, location, container, quantity, adjusted, recorded, row, -, -, -, -, -, happly,
    hrecorded, found, isOpen, written⟩ := adjustCase_writes h
  rw [← hdb, written]
  obtain ⟨sound', settled⟩ := sound.posted
    ((applyBalanceDelta_posted happly).trans (insertMovement_posted hrecorded))
  refine ⟨{ sound' with stands := fun j other stored => ?_ },
    fun j other stored closed => ?_⟩
  · dsimp only at stored
    rcases Table.of_find?_set stored with ⟨-, rfl⟩ | ⟨-, stored⟩
    · obtain ⟨lot, variance, placed⟩ := sound'.stands id row found
      exact ⟨lot, variance, placed⟩
    · obtain ⟨lot, variance, placed⟩ := sound'.stands j other stored
      exact ⟨lot, variance, placed⟩
  · have stored := settled j other stored closed
    refine (Table.find?_set_ne _ ?_).trans stored
    rintro rfl
    rw [found] at stored
    cases stored
    exact closed isOpen

theorem CasesSound.perform [Arithmetic] {operation : StockOperation} (sound : CasesSound db.tables)
    (h : operation.perform env actor db = .ok (response, db')) :
    CasesSound db'.tables ∧ CasesSettled db.tables db'.tables := by
  cases operation with
  | recordMovement payload => exact sound.posted (recordMovement_posted h)
  | recordTransformation payload => exact sound.posted (recordTransformation_posted h)
  | importExternalSnapshot payload => exact sound.import h
  | adjustReconciliation id payload => exact sound.adjust h
  | closeLot lotId =>
    cases h
    refine sound.grown ⟨fun id there => (Table.isSome_find?_updateAt ..).trans there,
      fun _ _ h => h, fun _ h => h, fun _ _ h => h⟩ ?_ sound.locations sound.containers rfl
    dsimp only [closeLot]
    unfold Table.updateAt
    split
    next row found => exact sound.lots.set found rfl
    next => exact sound.lots
  | createWarehouse payload =>
    simp only [StockOperation.perform, createWarehouse] at h
    obtain ⟨outcome, h, hdb⟩ := stocked_tables h
    rw [← hdb]
    obtain ⟨warehouses, hinsert, h⟩ := of_bind h
    cases h
    obtain ⟨-, rfl⟩ := insertMaterial_eq_ok.mp hinsert
    exact sound.grown ⟨fun _ h => h, fun _ _ h => h, fun _ => Table.isSome_find?_insert,
      fun _ _ h => h⟩ sound.lots sound.locations sound.containers rfl
  | createLocation payload =>
    simp only [StockOperation.perform, createLocation] at h
    obtain ⟨outcome, h, hdb⟩ := stocked_tables h
    rw [← hdb]
    obtain ⟨warehouse, -, h⟩ := of_bind h
    obtain ⟨locations, hinsert, h⟩ := of_bind h
    cases h
    obtain ⟨fresh, rfl⟩ := insertMaterial_eq_ok.mp hinsert
    exact sound.grown ⟨fun _ h => h, fun _ _ => Table.find?_insert_of_find? _, fun _ h => h,
      fun _ _ h => h⟩ sound.lots
      (sound.locations.insert (by simpa using Table.any_eq_false_iff.mp fresh)) sound.containers rfl
  | createContainer payload =>
    simp only [StockOperation.perform, createContainer] at h
    obtain ⟨outcome, h, hdb⟩ := stocked_tables h
    rw [← hdb]
    obtain ⟨location, -, h⟩ := of_bind h
    obtain ⟨containers, hinsert, h⟩ := of_bind h
    cases h
    obtain ⟨fresh, rfl⟩ := insertMaterial_eq_ok.mp hinsert
    exact sound.grown ⟨fun _ h => h, fun _ _ h => h, fun _ h => h,
      fun _ _ => Table.find?_insert_of_find? _⟩ sound.lots sound.locations
      (sound.containers.insert (by simpa using Table.any_eq_false_iff.mp fresh)) rfl
  | createLot payload =>
    simp only [StockOperation.perform, createLot] at h
    obtain ⟨outcome, h, hdb⟩ := stocked_tables h
    rw [← hdb]
    obtain ⟨material, -, h⟩ := of_bind h
    obtain ⟨lots, hinsert, h⟩ := of_bind h
    obtain ⟨lot, -, h⟩ := of_bind h
    cases h
    obtain ⟨fresh, rfl⟩ := insertMaterial_eq_ok.mp hinsert
    exact sound.grown ⟨fun _ => Table.isSome_find?_insert, fun _ _ h => h, fun _ h => h,
      fun _ _ h => h⟩ (sound.lots.insert (by simpa using Table.any_eq_false_iff.mp fresh))
      sound.locations sound.containers rfl

theorem casesSound_run [Arithmetic] (calls : List StockCall) :
    CasesSound (stockAuthority.run .empty calls).tables :=
  Authority.invariant (I := fun db : StockStore => CasesSound db.tables)
    (fun sound h => (sound.perform h).1) calls casesSound_empty

/-- The material and the unit of measure of a lot, which another authority keeps. -/
def LotRegistered (env : StockEnv) (tables : StockTables) (lotId : Nat) : Prop :=
  ∀ lot, tables.lots.find? lotId = some lot → (env.materials.find? lot.materialId).isSome = true ∧
    (env.uoms.find? lot.uomId).isSome = true

variable {id : Nat} {payload : ReconciliationAdjustmentIn}

theorem CasesSound.resolved [Arithmetic] (sound : CasesSound tables)
    (found : tables.reconciliationCases.find? id = some row) (env : StockEnv) :
    ∃ fact, requireCase tables id = .ok fact ∧ fact.row = row ∧
      (∀ lot, requireLot env tables fact.lotCode = .ok lot → lot.id = row.lotId) ∧
      (LotRegistered env tables row.lotId → ∃ lot, requireLot env tables fact.lotCode = .ok lot) ∧
      ∃ location container, requireLocation tables fact.locationCode = .ok location ∧
        location.1 = row.locationId ∧
        resolveContainer tables fact.containerCode (some location) = .ok container ∧
        containerKey container = row.containerKey := by
  obtain ⟨stored, -, place, container, placed, active, warehouse, known, owned, keyed, usable⟩ :=
    sound.stands id row found
  obtain ⟨lot, stored⟩ := Option.isSome_iff_exists.mp stored
  obtain ⟨standing, hwarehouse⟩ := Option.isSome_iff_exists.mp warehouse
  refine ⟨⟨row, lot.lotCode, place.locationCode, container.map (·.2.containerCode)⟩, ?_, rfl,
    fun other hother => ?_, fun registered => ?_, (row.locationId, place), container, ?_, rfl, ?_,
    keyed.symm⟩
  · have code : (row.containerId.bind tables.containers.find?).map (·.containerCode) =
        container.map (·.2.containerCode) := by
      rw [owned]
      cases container with
      | none => rfl
      | some entry => simp [known entry rfl]
    rw [← code]
    exact bind_eq_ok.mpr ⟨row, orFault_eq_ok.mpr found, bind_eq_ok.mpr ⟨lot,
      orFault_eq_ok.mpr stored, bind_eq_ok.mpr ⟨place, orFault_eq_ok.mpr placed, rfl⟩⟩⟩
  · obtain ⟨foundOther, same⟩ := requireLot_eq_ok hother
    exact sound.lots _ _ _ _ foundOther stored same
  · obtain ⟨material, uom⟩ := registered lot stored
    obtain ⟨material, hmaterial⟩ := Option.isSome_iff_exists.mp material
    obtain ⟨uom, huom⟩ := Option.isSome_iff_exists.mp uom
    have first := sound.lots.first? (p := (·.lotCode = lot.lotCode)) stored (by simp)
      fun _ _ _ same => of_decide_eq_true same
    exact ⟨_, bind_eq_ok.mpr ⟨_, orFault_eq_ok.mpr first, bind_eq_ok.mpr ⟨material,
      orFault_eq_ok.mpr hmaterial, bind_eq_ok.mpr ⟨uom, orFault_eq_ok.mpr huom, rfl⟩⟩⟩⟩
  · have first := sound.locations.first? (p := (·.locationCode = place.locationCode)) placed
      (by simp) fun _ _ _ same => of_decide_eq_true same
    exact bind_eq_ok.mpr ⟨_, orFault_eq_ok.mpr first, bind_eq_ok.mpr ⟨standing,
      orFault_eq_ok.mpr hwarehouse, bind_eq_ok.mpr ⟨(), check_eq_ok.mpr active, rfl⟩⟩⟩
  · cases container with
    | none => rfl
    | some entry =>
      obtain ⟨status, there⟩ := usable entry rfl
      have first := sound.containers.first? (p := (·.containerCode = entry.2.containerCode))
        (known entry rfl) (by simp) fun _ _ _ same => of_decide_eq_true same
      exact bind_eq_ok.mpr ⟨_, orFault_eq_ok.mpr first, bind_eq_ok.mpr ⟨(),
        check_eq_ok.mpr status, bind_eq_ok.mpr ⟨(), check_eq_ok.mpr there, rfl⟩⟩⟩

def ReconciliationCase.balance (row : ReconciliationCase) (tables : StockTables) : Quantity :=
  balanceQuantity tables row.lotId row.locationId row.containerKey

def ReconciliationCase.stale (row : ReconciliationCase) (tables : StockTables) : Fault :=
  materialError 409 "RECONCILIATION_STALE"
    "inventory changed after the external snapshot; a new snapshot is required"
    [("expected_quantity", .float row.expectedQuantity),
      ("current_quantity", .float (row.balance tables))]

/-- An adjustment adds the variance to a balance that is as expected, as the arithmetic of the
columns adds and compares, and records one movement of the variance. -/
structure Adjusts [Arithmetic] (id : Nat) (row : ReconciliationCase)
    (tables tables' : StockTables) : Prop where
  fresh : sameQuantity (row.balance tables) row.expectedQuantity = true
  variance : row.variance = Arithmetic.round (row.observedQuantity - row.expectedQuantity)
  balance : row.balance tables' = Arithmetic.round (row.balance tables + row.variance)
  recorded : ∃ movement, tables'.movements = tables.movements.insert movement ∧
    movement.movementType = .adjustment ∧ movement.reconciliationCaseId = some id ∧
    movement.lotId = row.lotId ∧ movement.quantity = |row.variance| ∧
    movement.fromLocationId = (if row.variance < 0 then some row.locationId else none) ∧
    movement.toLocationId = if 0 < row.variance then some row.locationId else none

/-- A case is refused while its snapshot is stale, moves the variance when a request succeeds,
and after a success no request for it changes anything. -/
structure ResolvesOnce [Arithmetic] (db : StockStore) (id : Nat) (row : ReconciliationCase) :
    Prop where
  stale : ∀ env actor payload, row.status = .open → LotRegistered env db.tables row.lotId →
    sameQuantity (row.balance db.tables) row.expectedQuantity = false →
      adjustReconciliation env db actor id payload = .error (row.stale db.tables)
  adjusted : ∀ env actor payload response db',
    adjustReconciliation env db actor id payload = .ok (response, db') →
      if row.status = .open then Adjusts id row db.tables db'.tables else db' = db
  once : ∀ env actor payload response db',
    adjustReconciliation env db actor id payload = .ok (response, db') →
      ∀ calls env actor payload response db'', adjustReconciliation env
        (stockAuthority.run db' calls) actor id payload = .ok (response, db'') →
          db'' = stockAuthority.run db' calls

theorem CasesSound.stale [Arithmetic] (sound : CasesSound db.tables)
    (found : db.tables.reconciliationCases.find? id = some row) (isOpen : row.status = .open)
    (registered : LotRegistered env db.tables row.lotId)
    (drifted : sameQuantity (row.balance db.tables) row.expectedQuantity = false) :
    adjustReconciliation env db actor id payload = .error (row.stale db.tables) := by
  obtain ⟨fact, hfact, rfl, own, lot, location, container, hlocation, place, hcontainer, -⟩ :=
    sound.resolved found env
  obtain ⟨lot, hlot⟩ := lot registered
  rw [adjustReconciliation, hfact, ok_bind, if_pos isOpen, stocked, adjustCase, hlot, ok_bind,
    hlocation, ok_bind, hcontainer, ok_bind]
  dsimp only
  rw [own lot hlot, place, check, if_neg]
  · rfl
  · exact Bool.eq_false_iff.mp drifted

theorem CasesSound.adjusts [Arithmetic] (sound : CasesSound db.tables) {fact : CaseFact}
    (hfact : requireCase db.tables id = .ok fact)
    (found : db.tables.reconciliationCases.find? id = some fact.row) {outcome : StockOutcome}
    (h : adjustCase env actor db.tables id fact payload = .ok outcome) :
    Adjusts id fact.row db.tables outcome.tables := by
  obtain ⟨fact, hfact', same, own, -, location, container, hlocation, place, hcontainer, key⟩ :=
    sound.resolved found env
  cases hfact.symm.trans hfact'
  obtain ⟨lot, location', container', quantity, adjusted, recorded, row, hlot, hlocation',
    hcontainer', near, -, happly, hrecorded, -, -, written⟩ := adjustCase_writes h
  cases hlocation.symm.trans hlocation'
  cases hcontainer.symm.trans hcontainer'
  have variance := (sound.stands id _ found).variance
  have after := applyBalanceDelta_balance happly
  rw [own lot hlot, place, key, ← variance] at after
  rw [own lot hlot, place] at near
  rw [written, insertMovement_tables hrecorded, ← variance,
    (applyBalanceDelta_shift happly).movements]
  refine ⟨near, variance, after, _, rfl, rfl, rfl, own lot hlot, ?_, ?_, ?_⟩
  all_goals dsimp only [adjustmentMovement]
  · split
    next short => exact (abs_of_neg short).symm
    next surplus => exact (abs_of_nonneg (not_lt.mp surplus)).symm
  · rw [place]
  · rw [place]

theorem adjustReconciliation_closes [Arithmetic]
    (h : adjustReconciliation env db actor id payload = .ok (response, db')) :
    ∃ row, db'.tables.reconciliationCases.find? id = some row ∧ row.status ≠ .open := by
  obtain ⟨fact, hfact, ⟨closed, rfl⟩ | ⟨-, outcome, h, hdb⟩⟩ := adjustReconciliation_eq_ok h
  · obtain ⟨row, found, h⟩ := of_bind hfact
    obtain ⟨_, -, h⟩ := of_bind h
    obtain ⟨_, -, h⟩ := of_bind h
    cases h
    exact ⟨row, orFault_eq_ok.mp found, closed⟩
  · obtain ⟨_, _, _, _, _, recorded, row, -, -, -, -, -, -, -, found, -, written⟩ :=
      adjustCase_writes h
    rw [← hdb, written]
    exact ⟨_, Table.find?_set_self _ found, nofun⟩

/-- Every case of every run resolves once. -/
theorem reconciliation_resolves_once [Arithmetic] (calls : List StockCall)
    (found : (stockAuthority.run .empty calls).tables.reconciliationCases.find? id = some row) :
    ResolvesOnce (stockAuthority.run .empty calls) id row := by
  have sound := casesSound_run calls
  refine ⟨fun env actor payload isOpen registered => sound.stale found isOpen registered,
    fun env actor payload response db' h => ?_, fun env actor payload response db' h later env'
      actor' payload' response' db'' h' => ?_⟩
  · obtain ⟨fact, hfact, rfl, -⟩ := sound.resolved found env
    obtain ⟨fact, hfact', resolved⟩ := adjustReconciliation_eq_ok h
    cases hfact.symm.trans hfact'
    obtain ⟨closed, same⟩ | ⟨isOpen, outcome, h, hdb⟩ := resolved
    · rw [if_neg closed]
      exact same
    · rw [if_pos isOpen, ← hdb]
      exact sound.adjusts hfact found h
  · obtain ⟨row, found, closed⟩ := adjustReconciliation_closes h
    have sound' := (sound.adjust h).1
    have kept := Authority.invariant (A := stockAuthority) (I := fun db : StockStore =>
      CasesSound db.tables ∧ db.tables.reconciliationCases.find? id = some row)
      (fun holds h => ⟨(holds.1.perform h).1, (holds.1.perform h).2 id row holds.2 closed⟩) later
      ⟨sound', found⟩
    obtain ⟨fact, hfact, rfl, -⟩ := kept.1.resolved kept.2 env
    obtain ⟨fact, hfact', ⟨-, same⟩ | ⟨isOpen, -⟩⟩ := adjustReconciliation_eq_ok h'
    · exact same
    · cases hfact.symm.trans hfact'
      exact absurd isOpen closed

/-- The arithmetic of `float` and of the columns, with sums that are rounded once. -/
@[reducible] def doubles : Arithmetic :=
  ⟨toDouble, fun qs => toDouble qs.sum, fun qs => toDouble qs.sum⟩

theorem sampleObserved_nonneg : 0 ≤ toDouble (3 / 10) := by
  decide +kernel

/-- Ten units are received, and a snapshot finds 0.3. -/
def sampleDrift : List StockCall :=
  [StockOperation.createWarehouse ⟨sampleCode "WH-1", sampleName, .raw⟩,
    .createLocation ⟨sampleCode "LOC-1", sampleCode "WH-1", sampleName, .storage⟩,
    .createLot ⟨sampleCode "LOT-1", sampleCode "MAT-1", .lot, sampleReference⟩,
    sampleMovement "MV-1" "LOC-1" 9,
    .importExternalSnapshot ⟨sampleCode "IMP-1", .erpSimulator, 0, sampleReference,
      [⟨sampleCode "LOT-1", sampleCode "LOC-1", none, toDouble (3 / 10), sampleObserved_nonneg⟩],
      by decide, by decide⟩].map (⟨sampleStockEnv, "operator", ·⟩)

def sampleAdjustment : ReconciliationAdjustmentIn :=
  ⟨sampleCode "MV-3", sampleReason, sampleReference⟩

def runDoubles : List StockCall → StockStore := (@stockAuthority doubles).run .empty

/-- The adjusted balance is ten plus the double of 0.3 - 10, which is above the double of 0.3. -/
theorem drift_survives_adjustment :
    ¬ ∀ calls env actor id payload row response db',
      (runDoubles calls).tables.reconciliationCases.find? id = some row → row.status = .open →
      row.balance (runDoubles calls).tables = row.expectedQuantity →
      @adjustReconciliation env (runDoubles calls) actor doubles id payload =
        .ok (response, db') →
      row.balance db'.tables = row.observedQuantity := by
  intro equals
  obtain ⟨row, found, holds⟩ := (Option.any_eq_true _ _).mp (show ((runDoubles
    sampleDrift).tables.reconciliationCases.find? 1).any (fun row => row.status = .open ∧
      row.balance (runDoubles sampleDrift).tables = row.expectedQuantity ∧
      row.balance (runDoubles (sampleDrift ++ [⟨sampleStockEnv, "operator",
        .adjustReconciliation 1 sampleAdjustment⟩])).tables ≠ row.observedQuantity) = true by
      decide +kernel)
  obtain ⟨isOpen, expected, off⟩ := of_decide_eq_true holds
  obtain ⟨⟨response, db'⟩, done⟩ := exists_ok (show (@adjustReconciliation sampleStockEnv
    (runDoubles sampleDrift) "operator" doubles 1 sampleAdjustment).isOk = true by
      decide +kernel)
  refine off ?_
  have left : (@stockAuthority doubles).serve (runDoubles sampleDrift) ⟨sampleStockEnv,
      "operator", .adjustReconciliation 1 sampleAdjustment⟩ = db' := Authority.serve_of_ok done
  rw [runDoubles, Authority.run_append, Authority.run_cons, Authority.run_nil]
  rw [runDoubles] at left
  rw [left]
  exact equals _ _ _ _ _ _ _ _ found isOpen expected done

theorem sampleDrift_resolves_once :
    ∃ row, (runDoubles sampleDrift).tables.reconciliationCases.find? 1 = some row ∧
      @ResolvesOnce doubles (runDoubles sampleDrift) 1 row := by
  obtain ⟨row, found⟩ := Option.isSome_iff_exists.mp (show ((runDoubles
    sampleDrift).tables.reconciliationCases.find? 1).isSome = true by decide +kernel)
  exact ⟨row, found, @reconciliation_resolves_once _ _ doubles sampleDrift found⟩

end MiniOgas
