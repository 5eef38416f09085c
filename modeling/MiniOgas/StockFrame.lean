import Mathlib.Tactic.Linarith
import MiniOgas.StockAuthority
import MiniOgas.Journal

namespace MiniOgas

open Relational Serial Journal

/-- An account of the stock: a lot, a location and a container. -/
abbrev StockKey := Nat × Nat × Option Nat

def InventoryBalance.key (balance : InventoryBalance) : StockKey :=
  (balance.lotId, balance.locationId, balance.containerId)

def endKey (lotId : Nat) (locationId containerId : Option Nat) : Option StockKey :=
  locationId.map fun id => (lotId, id, containerId)

def InventoryMovement.entry (movement : InventoryMovement) : Entry StockKey Quantity where
  source := endKey movement.lotId movement.fromLocationId movement.fromContainerId
  target := endKey movement.lotId movement.toLocationId movement.toContainerId
  quantity := movement.quantity

def StockTables.journal (tables : StockTables) : List (Entry StockKey Quantity) :=
  tables.movements.rows.map InventoryMovement.entry

def StockTables.stored (tables : StockTables) (k : StockKey) : Quantity :=
  ((tables.balances.lookup InventoryBalance.key k).map InventoryBalance.quantity).getD 0

def Known (tables : StockTables) (container : Option (Nat × MaterialContainer)) : Prop :=
  ∀ entry ∈ container, tables.containers.find? entry.1 = some entry.2

structure StockSound (tables : StockTables) : Prop where
  codes : tables.containers.Keyed MaterialContainer.containerCode
  coded : ∀ id container, tables.containers.find? id = some container →
    container.containerCode ≠ ""
  placed : ∀ id balance, tables.balances.find? id = some balance →
    ∃ container, Known tables container ∧ balance.containerId = container.map (·.1) ∧
      balance.containerKey = containerKey container
  keyed : tables.balances.Keyed InventoryBalance.key
  nonneg : ∀ id balance, tables.balances.find? id = some balance → 0 ≤ balance.quantity

variable {tables tables' : StockTables} {container : Option (Nat × MaterialContainer)}
  {lotId locationId id : Nat} {balance new : InventoryBalance}

theorem stockSound_empty : StockSound .empty where
  codes := Table.keyed_empty
  coded := fun _ _ found => by simp [StockTables.empty] at found
  placed := fun _ _ found => by simp [StockTables.empty] at found
  keyed := Table.keyed_empty
  nonneg := fun _ _ found => by simp [StockTables.empty] at found

theorem known_none : Known tables none := fun _ h => by simp at h

theorem StockSound.code_eq_iff (sound : StockSound tables) (known : Known tables container)
    {other : Option (Nat × MaterialContainer)} (known' : Known tables other) :
    containerKey container = containerKey other ↔ container.map (·.1) = other.map (·.1) := by
  cases container with
  | none =>
    cases other with
    | none => simp
    | some entry => simpa [containerKey] using (sound.coded entry.1 entry.2 (known' entry rfl)).symm
  | some entry =>
    have found := known entry rfl
    cases other with
    | none => simpa [containerKey] using sound.coded entry.1 entry.2 found
    | some entry' =>
      have found' := known' entry' rfl
      simp only [containerKey, Option.map_some, Option.getD_some, Option.some.injEq]
      constructor
      · exact sound.codes _ _ _ _ found found'
      · intro same
        rw [same, found'] at found
        rw [Option.some.inj found]

theorem StockSound.isAt_iff (sound : StockSound tables) (known : Known tables container)
    (found : tables.balances.find? id = some balance) :
    balance.isAt lotId locationId (containerKey container) = true ↔
      balance.key = (lotId, locationId, container.map (·.1)) := by
  obtain ⟨own, hown, hid, hkey⟩ := sound.placed id balance found
  simp only [InventoryBalance.isAt, InventoryBalance.key, Bool.and_eq_true, decide_eq_true_eq,
    Prod.mk.injEq, and_assoc, hid, hkey, sound.code_eq_iff hown known]

theorem StockSound.first?_isAt (sound : StockSound tables) (known : Known tables container) :
    tables.balances.first? (·.isAt lotId locationId (containerKey container)) =
      tables.balances.first? (·.key = (lotId, locationId, container.map (·.1))) := by
  refine Table.first?_congr fun id balance found => ?_
  rw [Bool.eq_iff_iff, sound.isAt_iff known found, decide_eq_true_iff]

theorem StockSound.balanceQuantity_eq (sound : StockSound tables)
    (known : Known tables container) :
    balanceQuantity tables lotId locationId (containerKey container) =
      tables.stored (lotId, locationId, container.map (·.1)) := by
  rw [balanceQuantity, sound.first?_isAt known, StockTables.stored, Table.lookup, Option.map_map]
  rfl

theorem StockSound.insert_balance (sound : StockSound tables) (known : Known tables container)
    (hid : new.containerId = container.map (·.1)) (hkey : new.containerKey = containerKey container)
    (fresh : ∀ id balance, tables.balances.find? id = some balance → balance.key ≠ new.key)
    (nonneg : 0 ≤ new.quantity) :
    StockSound { tables with balances := tables.balances.insert new } where
  codes := sound.codes
  coded := sound.coded
  placed := Table.forall_insert ⟨container, known, hid, hkey⟩ sound.placed
  keyed := sound.keyed.insert fresh
  nonneg := Table.forall_insert nonneg sound.nonneg

theorem StockSound.set_balance (sound : StockSound tables)
    (stored : tables.balances.find? id = some balance) (same : new.key = balance.key)
    (hkey : new.containerKey = balance.containerKey) (nonneg : 0 ≤ new.quantity) :
    StockSound { tables with balances := tables.balances.set id new } where
  codes := sound.codes
  coded := sound.coded
  placed := by
    obtain ⟨container, known, hid, hcode⟩ := sound.placed id balance stored
    exact Table.forall_set ⟨container, known, (congrArg (·.2.2) same).trans hid,
      hkey.trans hcode⟩ sound.placed
  keyed := sound.keyed.set stored same
  nonneg := Table.forall_set nonneg sound.nonneg

variable {env : StockEnv} {tables tables' : StockTables} {lot : LotFact}
  {location : Nat × InventoryLocation} {container : Option (Nat × MaterialContainer)}
  {delta quantity : Quantity} {pending : StockKey → Quantity} {movement : InventoryMovement}

theorem StockSound.ensureBalance (sound : StockSound tables) (known : Known tables container)
    (env : StockEnv) (lot : LotFact) (locationId : Nat) {ensured : StockTables}
    (h : { tables with
      balances := MiniOgas.ensureBalance env tables lot locationId container } = ensured) :
    StockSound ensured ∧ ∀ k, ensured.stored k = tables.stored k := by
  subst h
  unfold MiniOgas.ensureBalance
  split
  next => exact ⟨sound, fun _ => rfl⟩
  next absent =>
    generalize hnew : (⟨lot.row.materialId, lot.id, lot.row.uomId, locationId,
      container.map (·.1), containerKey container, 0, env.now⟩ : InventoryBalance) = new
    have fresh : ∀ id balance, tables.balances.find? id = some balance →
        balance.key ≠ new.key := by
      rw [← hnew]
      intro id balance found same
      exact absent (Table.any_iff.mpr ⟨id, balance, found, (sound.isAt_iff known found).mpr same⟩)
    have zero : new.quantity = 0 := by rw [← hnew]
    refine ⟨sound.insert_balance known (by rw [← hnew]) (by rw [← hnew]) fresh zero.ge,
      fun k => ?_⟩
    simp only [StockTables.stored]
    rw [sound.keyed.lookup_insert fresh]
    split
    next same =>
      have missing : tables.balances.lookup InventoryBalance.key k = none := by
        rw [same]
        exact Table.lookup_eq_none fresh
      simp [missing, zero]
    next => rfl

theorem StockSound.stored_set {id : Nat} {balance : InventoryBalance}
    (sound : StockSound tables) (new : InventoryBalance)
    (found : tables.balances.find? id = some balance)
    (same : new.key = balance.key) (hquantity : new.quantity = balance.quantity + delta)
    (k : StockKey) :
    StockTables.stored { tables with balances := tables.balances.set id new } k =
      tables.stored k + posting (some balance.key) delta k := by
  simp only [StockTables.stored, posting, Option.some.injEq]
  rw [sound.keyed.lookup_set found same]
  by_cases hk : k = balance.key
  · rw [if_pos hk, if_pos hk.symm, hk, sound.keyed.lookup_eq found]
    simpa using hquantity
  · rw [if_neg hk, if_neg (fun h => hk h.symm), add_zero]

theorem applyBalanceDelta_posts (sound : StockSound tables) (known : Known tables container)
    (h : applyBalanceDelta env tables lot location container delta = .ok (quantity, tables')) :
    StockSound tables' ∧
      (∀ k, tables'.stored k = tables.stored k +
        posting (some (lot.id, location.1, container.map (·.1))) delta k) ∧
      ∃ balances, tables' = { tables with balances } := by
  replace h := of_then (of_then h)
  generalize hensured : { tables with
    balances := ensureBalance env tables lot location.1 container } = ensured at h
  obtain ⟨sound', stored⟩ := sound.ensureBalance known env lot location.1 hensured
  have known' : Known ensured container := by rw [← hensured]; exact known
  obtain ⟨⟨id, balance⟩, found, h⟩ := of_bind h
  replace h := of_then h
  obtain ⟨_, nonneg, h⟩ := of_bind h
  replace h := of_then h
  have nonneg := check_eq_ok.mp nonneg
  obtain ⟨found, isAt⟩ := Table.first?_spec (orFault_eq_ok.mp found)
  have hkey := (sound'.isAt_iff known' found).mp isAt
  rw [if_neg (by intro clamp; linarith [clamp.1])] at h
  obtain ⟨-, rfl⟩ := Prod.mk.inj (Except.ok.inj h)
  refine ⟨sound'.set_balance found rfl rfl nonneg, fun k => ?_, _, by rw [← hensured]⟩
  rw [← stored k, ← hkey]
  exact sound'.stored_set
    { balance with quantity := balance.quantity + delta, updatedAt := env.now } found rfl rfl k

structure Matched (tables : StockTables) (pending : StockKey → Quantity) : Prop where
  sound : StockSound tables
  ahead : Ahead tables.stored tables.journal pending

theorem matched_empty : Matched .empty fun _ => 0 where
  sound := stockSound_empty
  ahead := fun _ => by
    simp [StockTables.stored, StockTables.journal, StockTables.empty, Table.lookup, Table.first?,
      Table.select, Table.entries, Table.empty, net]

theorem Matched.applyBalanceDelta (matched : Matched tables pending)
    (known : Known tables container)
    (h : MiniOgas.applyBalanceDelta env tables lot location container delta =
      .ok (quantity, tables')) :
    Matched tables' (fun k =>
        pending k + posting (some (lot.id, location.1, container.map (·.1))) delta k) ∧
      tables'.containers = tables.containers := by
  obtain ⟨sound, posts, balances, rfl⟩ := applyBalanceDelta_posts matched.sound known h
  exact ⟨⟨sound, matched.ahead.post posts⟩, rfl⟩

theorem Matched.insertMovement {settled : StockKey → Quantity} (matched : Matched tables pending)
    (owed : ∀ k, pending k =
      settled k + (movement.entry.inflow k - movement.entry.outflow k))
    (h : MiniOgas.insertMovement env tables movement = .ok tables') :
    Matched tables' settled ∧ tables'.containers = tables.containers := by
  replace h := of_then (of_then (of_then h))
  obtain ⟨movements, hinsert, h⟩ := of_bind h
  obtain ⟨-, rfl⟩ := insertMaterial_eq_ok.mp hinsert
  cases h
  have recorded := matched.ahead.record owed
  have hjournal : StockTables.journal { tables with
      movements := tables.movements.insert movement } = tables.journal ++ [movement.entry] := by
    simp [StockTables.journal, Table.insert]
  refine ⟨⟨⟨matched.sound.codes, matched.sound.coded, matched.sound.placed, matched.sound.keyed,
    matched.sound.nonneg⟩, ?_⟩, rfl⟩
  rw [hjournal]
  exact recorded

theorem Matched.of_eq (matched : Matched tables pending)
    (containers : tables'.containers = tables.containers)
    (balances : tables'.balances = tables.balances)
    (movements : tables'.movements = tables.movements) : Matched tables' pending := by
  obtain ⟨⟨codes, coded, placed, keyed, nonneg⟩, ahead⟩ := matched
  refine ⟨⟨?_, ?_, ?_, ?_, ?_⟩, ?_⟩
  · rw [containers]; exact codes
  · rw [containers]; exact coded
  · rw [balances]
    simpa only [Known, containers] using placed
  · rw [balances]; exact keyed
  · rw [balances]; exact nonneg
  · simpa only [Ahead, StockTables.stored, StockTables.journal, balances, movements] using ahead

structure SameStock (lotId : Nat) (tables tables' : StockTables) : Prop where
  balances : Table.SameRows (fun row : InventoryBalance => row.lotId = lotId)
    tables.balances tables'.balances
  movements : Table.SameRows (fun row : InventoryMovement => row.lotId = lotId)
    tables.movements tables'.movements

theorem SameStock.refl (lotId : Nat) (tables : StockTables) : SameStock lotId tables tables :=
  ⟨.refl _, .refl _⟩

theorem SameStock.of_eq {a b : StockTables} (same : b = a) : SameStock lotId a b :=
  same ▸ .refl lotId b

theorem SameStock.trans {a b c : StockTables} (first : SameStock lotId a b)
    (second : SameStock lotId b c) : SameStock lotId a c :=
  ⟨first.balances.trans second.balances, first.movements.trans second.movements⟩

structure Booked (env : StockEnv) (tables tables' : StockTables) : Prop where
  spared : ∀ lotId, env.openHold lotId ≠ none → SameStock lotId tables tables'
  transformations : tables'.transformations = tables.transformations
  edges : tables'.genealogyEdges = tables.genealogyEdges

variable {db db' : StockStore} {tables'' : StockTables} {actor : String} {response : Json}
  {payload : TransformationIn}

theorem Booked.refl (env : StockEnv) (tables : StockTables) : Booked env tables tables :=
  ⟨fun lotId _ => .refl lotId tables, rfl, rfl⟩

theorem Booked.trans (first : Booked env tables tables') (second : Booked env tables' tables'') :
    Booked env tables tables'' where
  spared lotId held := (first.spared lotId held).trans (second.spared lotId held)
  transformations := second.transformations.trans first.transformations
  edges := second.edges.trans first.edges

theorem Booked.of_eq (env : StockEnv) (balances : tables'.balances = tables.balances)
    (movements : tables'.movements = tables.movements)
    (transformations : tables'.transformations = tables.transformations)
    (edges : tables'.genealogyEdges = tables.genealogyEdges) : Booked env tables tables' where
  spared lotId _ := ⟨by rw [balances]; exact .refl _, by rw [movements]; exact .refl _⟩
  transformations := transformations
  edges := edges

structure LotShift (lotId : Nat) (tables tables' : StockTables) : Prop where
  others : ∀ other, other ≠ lotId → Table.SameRows
    (fun row : InventoryBalance => row.lotId = other) tables.balances tables'.balances
  movements : tables'.movements = tables.movements
  transformations : tables'.transformations = tables.transformations
  edges : tables'.genealogyEdges = tables.genealogyEdges

theorem LotShift.refl (lotId : Nat) (tables : StockTables) : LotShift lotId tables tables :=
  ⟨fun _ _ => .refl _, rfl, rfl, rfl⟩

theorem LotShift.trans (first : LotShift lotId tables tables')
    (second : LotShift lotId tables' tables'') : LotShift lotId tables tables'' where
  others other ne := (first.others other ne).trans (second.others other ne)
  movements := second.movements.trans first.movements
  transformations := second.transformations.trans first.transformations
  edges := second.edges.trans first.edges

theorem ensureBalance_others (env : StockEnv) (tables : StockTables) (lot : LotFact)
    (locationId : Nat) (container : Option (Nat × MaterialContainer)) {other : Nat}
    (ne : other ≠ lot.id) :
    Table.SameRows (fun row : InventoryBalance => row.lotId = other) tables.balances
      (ensureBalance env tables lot locationId container) := by
  unfold ensureBalance
  split
  next => exact .refl _
  next => exact Table.sameRows_insert fun same => ne same.symm

theorem applyBalanceDelta_shift [Arithmetic] {location : Nat × InventoryLocation}
    {delta quantity : Quantity}
    (h : applyBalanceDelta env tables lot location container delta = .ok (quantity, tables')) :
    LotShift lot.id tables tables' := by
  replace h := of_then (of_then h)
  obtain ⟨⟨id, balance⟩, found, h⟩ := of_bind h
  replace h := of_then (of_then (of_then h))
  obtain ⟨found, isAt⟩ := Table.first?_spec (orFault_eq_ok.mp found)
  have own : balance.lotId = lot.id := by
    simp only [InventoryBalance.isAt, Bool.and_eq_true, decide_eq_true_eq] at isAt
    exact isAt.1.1
  have set : ∀ new : InventoryBalance, new.lotId = balance.lotId → ∀ other, other ≠ lot.id →
      Table.SameRows (fun row : InventoryBalance => row.lotId = other) tables.balances
        ((ensureBalance env tables lot location.1 container).set id new) := by
    intro new same other ne
    refine (ensureBalance_others env tables lot location.1 container ne).trans
      (Table.sameRows_set found ?_ ?_)
    · exact fun he => ne (he.symm.trans own)
    · exact fun he => ne (he.symm.trans (same.trans own))
  dsimp only at h
  split at h
  next =>
    cases h
    exact ⟨set _ rfl, rfl, rfl, rfl⟩
  next =>
    cases h
    exact ⟨set _ rfl, rfl, rfl, rfl⟩

theorem applyEnd_shift [Arithmetic] {location : Option (Nat × InventoryLocation)} {delta : Quantity}
    (h : applyEnd env tables lot location container delta = .ok tables') :
    LotShift lot.id tables tables' := by
  cases location with
  | none =>
    cases h
    exact .refl _ _
  | some location =>
    obtain ⟨⟨quantity, posted⟩, happly, h⟩ := of_bind h
    cases h
    exact applyBalanceDelta_shift happly

theorem LotShift.booked {movement : InventoryMovement}
    (shift : LotShift movement.lotId tables tables')
    (h : insertMovement env tables' movement = .ok tables'') : Booked env tables tables'' := by
  obtain ⟨_, free, h⟩ := of_bind h
  replace h := of_then (of_then h)
  obtain ⟨movements, hinsert, h⟩ := of_bind h
  obtain ⟨-, rfl⟩ := insertMaterial_eq_ok.mp hinsert
  cases h
  have free := check_eq_ok.mp free
  refine ⟨fun lotId held => ?_, shift.transformations, shift.edges⟩
  have ne : lotId ≠ movement.lotId := by
    rintro rfl
    exact held free
  refine ⟨shift.others lotId ne, ?_⟩
  rw [shift.movements]
  exact Table.sameRows_insert fun same => ne same.symm

/-- What a recorded movement writes: it leaves its source, enters its target and is filed. -/
theorem recordMovement_writes [Arithmetic] {payload : MovementIn}
    (h : recordMovement env db actor payload = .ok (response, db')) :
    db' = db ∨ ∃ (lot : LotFact) (source target : Option (Nat × InventoryLocation))
      (left entered : Option (Nat × MaterialContainer)) (issued received : StockTables)
      (movement : InventoryMovement),
      resolveContainer db.tables (payload.fromContainerCode.map (·.value)) source = .ok left ∧
      resolveContainer db.tables (payload.toContainerCode.map (·.value)) target = .ok entered ∧
      applyEnd env db.tables lot source left (-payload.quantity) = .ok issued ∧
      applyEnd env issued lot target entered payload.quantity = .ok received ∧
      movement.lotId = lot.id ∧
      movement.entry = ⟨endKey lot.id (source.map (·.1)) (left.map (·.1)),
        endKey lot.id (target.map (·.1)) (entered.map (·.1)), payload.quantity⟩ ∧
      insertMovement env received movement = .ok db'.tables := by
  rcases replayed_eq_ok h with ⟨-, same⟩ | ⟨-, h⟩
  · exact .inl same
  obtain ⟨outcome, h, hdb⟩ := stocked_tables h
  rw [← hdb]
  obtain ⟨lot, -, h⟩ := of_bind h
  replace h := of_then (of_then (of_then (of_then h)))
  obtain ⟨maintenanceOrderId, -, h⟩ := of_bind h
  obtain ⟨source, -, h⟩ := of_bind h
  obtain ⟨target, -, h⟩ := of_bind h
  obtain ⟨left, hleft, h⟩ := of_bind h
  obtain ⟨entered, hentered, h⟩ := of_bind h
  replace h := of_then h
  obtain ⟨issued, hissued, h⟩ := of_bind h
  obtain ⟨received, hreceived, h⟩ := of_bind h
  obtain ⟨recorded, hrecorded, h⟩ := of_bind h
  cases h
  exact .inr ⟨lot, source, target, left, entered, issued, received, _, hleft, hentered, hissued,
    hreceived, rfl, rfl, hrecorded⟩

theorem recordMovement_booked [Arithmetic] {payload : MovementIn}
    (h : recordMovement env db actor payload = .ok (response, db')) :
    Booked env db.tables db'.tables := by
  rcases recordMovement_writes h with rfl |
    ⟨lot, source, target, left, entered, issued, received, movement, -, -, hissued, hreceived,
      own, -, hrecorded⟩
  · exact .refl _ _
  have shift := (applyEnd_shift hissued).trans (applyEnd_shift hreceived)
  rw [← own] at shift
  exact shift.booked hrecorded

theorem postLeg_booked [Arithmetic] {direction : Direction} {leg : TransformationLeg × Nat}
    (h : postLeg env actor payload direction tables leg = .ok tables') :
    Booked env tables tables' := by
  obtain ⟨⟨quantity, posted⟩, happly, h⟩ := of_bind h
  have shift : LotShift (legMovement env actor payload direction (leg.2 + 1) leg.1).lotId tables
      posted := applyBalanceDelta_shift happly
  exact shift.booked h

theorem postLegs_booked [Arithmetic] {direction : Direction} {legs : List (TransformationLeg × Nat)}
    (h : legs.foldlM (postLeg env actor payload direction) tables = .ok tables') :
    Booked env tables tables' :=
  foldlM_invariant (I := Booked env tables) (fun _ _ _ _ booked hstep =>
    booked.trans (postLeg_booked hstep)) (.refl _ _) h

/-- What an adjustment writes: the variance at the place of its case, its movement and its
case. -/
theorem adjustCase_writes [Arithmetic] {id : Nat} {fact : CaseFact}
    {payload : ReconciliationAdjustmentIn} {outcome : StockOutcome}
    (h : adjustCase env actor tables id fact payload = .ok outcome) :
    ∃ (lot : LotFact) (location : Nat × InventoryLocation)
      (container : Option (Nat × MaterialContainer)) (quantity : Quantity)
      (adjusted recorded : StockTables) (row : ReconciliationCase),
      requireLot env tables fact.lotCode = .ok lot ∧
      requireLocation tables fact.locationCode = .ok location ∧
      resolveContainer tables fact.containerCode (some location) = .ok container ∧
      sameQuantity (balanceQuantity tables lot.id location.1 fact.row.containerKey)
        fact.row.expectedQuantity = true ∧
      sameQuantity fact.row.delta 0 = false ∧
      applyBalanceDelta env tables lot location container fact.row.delta =
        .ok (quantity, adjusted) ∧
      insertMovement env adjusted (adjustmentMovement env actor payload id lot location.1
        (container.map (·.1)) fact.row.delta) = .ok recorded ∧
      recorded.reconciliationCases.find? id = some row ∧ row.status = .open ∧
      outcome.tables = { recorded with
        reconciliationCases := recorded.reconciliationCases.set id { row with
          status := .adjusted, adjustmentMovementId := some payload.movementId.value
          adjustmentReason := some payload.reason.value
          adjustmentEvidenceReference := some payload.evidenceReference.value
          adjustedBy := some actor, adjustedAt := some env.now } } := by
  obtain ⟨lot, hlot, h⟩ := of_bind h
  obtain ⟨location, hlocation, h⟩ := of_bind h
  obtain ⟨container, hcontainer, h⟩ := of_bind h
  obtain ⟨_, same, h⟩ := of_bind h
  obtain ⟨_, varies, h⟩ := of_bind h
  obtain ⟨⟨quantity, adjusted⟩, happly, h⟩ := of_bind h
  obtain ⟨recorded, hrecorded, h⟩ := of_bind h
  obtain ⟨cases', updated, h⟩ := of_bind h
  cases h
  obtain ⟨row, found, isOpen, rfl⟩ := Table.updateOne_eq_ok.mp updated
  exact ⟨lot, location, container, quantity, adjusted, recorded, row, hlot, hlocation, hcontainer,
    check_eq_ok.mp same, check_eq_ok.mp varies, happly, hrecorded, found, of_decide_eq_true isOpen,
    rfl⟩

theorem adjustReconciliation_eq_ok [Arithmetic] {id : Nat} {payload : ReconciliationAdjustmentIn}
    (h : adjustReconciliation env db actor id payload = .ok (response, db')) :
    ∃ fact, requireCase db.tables id = .ok fact ∧
      (fact.row.status ≠ .open ∧ db' = db ∨ fact.row.status = .open ∧ ∃ outcome,
        adjustCase env actor db.tables id fact payload = .ok outcome ∧
          outcome.tables = db'.tables) := by
  obtain ⟨fact, hfact, h⟩ := of_bind h
  refine ⟨fact, hfact, ?_⟩
  split at h
  next isOpen => exact .inr ⟨isOpen, stocked_tables h⟩
  next closed =>
    obtain ⟨_, -, h⟩ := of_bind h
    obtain ⟨_, -, h⟩ := of_bind h
    cases h
    exact .inl ⟨closed, rfl⟩

theorem adjustReconciliation_booked [Arithmetic] {id : Nat} {payload : ReconciliationAdjustmentIn}
    (h : adjustReconciliation env db actor id payload = .ok (response, db')) :
    Booked env db.tables db'.tables := by
  obtain ⟨fact, -, ⟨-, rfl⟩ | ⟨-, outcome, h, hdb⟩⟩ := adjustReconciliation_eq_ok h
  · exact .refl _ _
  obtain ⟨lot, location, container, quantity, adjusted, recorded, row, -, -, -, -, -, happly,
    hrecorded, -, -, written⟩ := adjustCase_writes h
  rw [← hdb, written]
  exact (LotShift.booked (applyBalanceDelta_shift happly) hrecorded).trans
    (.of_eq env rfl rfl rfl rfl)

theorem compareItem_tables [Arithmetic] {payload : ExternalSnapshotIn} {importId : Nat}
    {item : ExternalSnapshotItemIn × Nat}
    (h : compareItem env payload importId tables item = .ok tables') :
    ∃ reconciliationCases, tables' = { tables with reconciliationCases } := by
  obtain ⟨lot, -, h⟩ := of_bind h
  obtain ⟨location, -, h⟩ := of_bind h
  obtain ⟨container, -, h⟩ := of_bind h
  dsimp only at h
  split at h
  next =>
    cases h
    exact ⟨_, rfl⟩
  next =>
    obtain ⟨reconciliationCases, -, h⟩ := of_bind h
    cases h
    exact ⟨_, rfl⟩

theorem importExternalSnapshot_tables [Arithmetic] {payload : ExternalSnapshotIn}
    (h : importExternalSnapshot env db actor payload = .ok (response, db')) :
    ∃ externalImports reconciliationCases,
      db'.tables = { db.tables with externalImports, reconciliationCases } := by
  rcases replayed_eq_ok h with ⟨-, rfl⟩ | ⟨-, h⟩
  · exact ⟨_, _, rfl⟩
  obtain ⟨outcome, h, hdb⟩ := stocked_tables h
  rw [← hdb]
  obtain ⟨externalImports, -, h⟩ := of_bind h
  obtain ⟨compared, hcompared, h⟩ := of_bind h
  cases h
  refine ⟨externalImports, foldlM_invariant (I := fun t => ∃ reconciliationCases,
    t = { db.tables with externalImports, reconciliationCases }) ?_ ⟨_, rfl⟩ hcompared⟩
  rintro t item t' - ⟨_, rfl⟩ hstep
  exact compareItem_tables hstep

theorem perform_booked [Arithmetic] {operation : StockOperation}
    (h : operation.perform env actor db = .ok (response, db')) :
    Booked env db.tables db'.tables ∨ ∃ payload, operation = .recordTransformation payload := by
  cases operation with
  | recordMovement payload => exact .inl (recordMovement_booked h)
  | recordTransformation payload => exact .inr ⟨payload, rfl⟩
  | importExternalSnapshot payload =>
    obtain ⟨_, _, same⟩ := importExternalSnapshot_tables h
    rw [same]
    exact .inl (.of_eq env rfl rfl rfl rfl)
  | adjustReconciliation id payload => exact .inl (adjustReconciliation_booked h)
  | closeLot lotId =>
    cases h
    exact .inl (.of_eq env rfl rfl rfl rfl)
  | createWarehouse | createLocation | createContainer | createLot =>
    simp only [StockOperation.perform, createWarehouse, createLocation, createContainer,
      createLot] at h
    obtain ⟨outcome, hbody, hdb⟩ := stocked_tables h
    rw [← hdb]
    repeat obtain ⟨_, -, hbody⟩ := of_bind hbody
    cases hbody
    exact .inl (.of_eq env rfl rfl rfl rfl)

end MiniOgas
