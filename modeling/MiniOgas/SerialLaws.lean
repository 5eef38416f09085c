import MiniOgas.TransformationOperation
import MiniOgas.Interleaving
import Mathlib.Tactic.Linarith

namespace MiniOgas

open Relational Interleaving

/-- The unique key of a balance: its lot, its location and its `container_key`. -/
abbrev BalanceKey := Nat × Nat × String

/-- What the statements of `_apply_balance_delta` and of its trigger read and write: the lots, and
the quantities of the balances by their unique key. -/
structure BalanceRows where
  lots : Table MaterialLot
  quantities : List (BalanceKey × Quantity)

/-- `_balance_quantity` of a row that is there. -/
def BalanceRows.quantity? (rows : BalanceRows) (key : BalanceKey) : Option Quantity :=
  (rows.quantities.find? (·.1 = key)).map (·.2)

/-- `SELECT COALESCE(SUM(quantity), 0) .. WHERE lot_id=?`. -/
def BalanceRows.total (rows : BalanceRows) (lotId : Nat) : Quantity :=
  ((rows.quantities.filter (·.1.1 = lotId)).map (·.2)).sum

def BalanceRows.others (rows : BalanceRows) (key : BalanceKey) : Quantity :=
  ((rows.quantities.filter fun row => row.1.1 = key.1 && row.1 ≠ key).map (·.2)).sum

def BalanceRows.isSerial (rows : BalanceRows) (lotId : Nat) : Bool :=
  (rows.lots.find? lotId).any (·.trackingKind = .serial)

def BalanceRows.put (rows : BalanceRows) (write : BalanceKey × Quantity) : BalanceRows :=
  { rows with quantities := rows.quantities.filter (·.1 ≠ write.1) ++ [write] }

/-- The arguments of a call of `_apply_balance_delta`. -/
structure Posting where
  lot : LotFact
  location : Nat × InventoryLocation
  container : Option (Nat × MaterialContainer)
  delta : Quantity

def Posting.key (posting : Posting) : BalanceKey :=
  (posting.lot.id, posting.location.1, containerKey posting.container)

/-- A place that a movement leaves or enters. -/
abbrev Place := (Nat × InventoryLocation) × Option (Nat × MaterialContainer)

inductive StockTransaction where
  | movement (lot : LotFact) (source target : Option Place) (quantity : Quantity)
  | transformation (inputs outputs : List TransformationLeg)
  | adjustment (lot : LotFact) (place : Place) (delta : Quantity)

/-- The calls of `_apply_balance_delta` in their order. -/
def StockTransaction.postings : StockTransaction → List Posting
  | .movement lot source target quantity =>
    (source.map fun place => ⟨lot, place.1, place.2, -quantity⟩).toList ++
      (target.map fun place => ⟨lot, place.1, place.2, quantity⟩).toList
  | .transformation inputs outputs =>
    (inputs.map fun leg => ⟨leg.lot, leg.location, leg.container, -leg.quantity⟩) ++
      (outputs.map fun leg => ⟨leg.lot, leg.location, leg.container, leg.quantity⟩)
  | .adjustment lot place delta => [⟨lot, place.1, place.2, delta⟩]

/-- The statement of `_apply_balance_delta` that is next. -/
inductive PostingStatement where
  | selectTotal
  | insertRow
  | updateRow
  | selectQuantity
  | clampRow

structure StockPhase where
  statement : PostingStatement
  postings : List Posting

/-- The locks of a transaction: of rows of `material_lots`, and of rows of `inventory_balances`. -/
inductive StockLock where
  | lot (id : Nat)
  | balance (key : BalanceKey)
deriving DecidableEq

abbrev StockAction := Action StockPhase (BalanceKey × Quantity) StockLock Unit Fault

/-- The trigger `miniogas_guard_serial_balance` and `CHECK (quantity >= 0)` before a row is written:
for a serial the trigger locks the lot, sums the other balances, and raises when the total exceeds
one. -/
def guardedWrite (rows : BalanceRows) (key : BalanceKey) (quantity : Quantity)
    (locks : List StockLock) (writes : List (BalanceKey × Quantity)) (next : StockPhase) :
    StockAction :=
  if rows.isSerial key.1 = true ∧ 1 + 1 / 1000000000 < rows.others key + quantity then
    .raise (.database "serial total balance cannot exceed one")
  else if quantity < 0 then .raise (.database "CHECK constraint failed: quantity >= 0")
  else .go (if rows.isSerial key.1 then .lot key.1 :: locks else locks) writes next

/-- The statements of `_apply_balance_delta`, one posting after the other. -/
def stockStatement (phase : StockPhase) (rows : BalanceRows) : StockAction :=
  match phase.postings with
  | [] => .commit ()
  | posting :: rest =>
    let key := posting.key
    let at' := fun statement => (⟨statement, posting :: rest⟩ : StockPhase)
    match phase.statement with
    | .selectTotal =>
      if 0 < posting.delta ∧ posting.lot.row.trackingKind = .serial ∧
          1 + 1 / 1000000000 < rows.total key.1 + posting.delta then
        .raise (materialError 409 "SERIAL_QUANTITY_INVALID"
          "a serial identity can represent at most one unit across all locations"
          [("lot_code", .str posting.lot.row.lotCode)])
      else .go [] [] (at' .insertRow)
    | .insertRow =>
      -- `ON CONFLICT DO NOTHING`, after the trigger
      if (rows.quantity? key).isSome then guardedWrite rows key 0 [] [] (at' .updateRow)
      else guardedWrite rows key 0 [.balance key] [(key, 0)] (at' .updateRow)
    | .updateRow =>
      let available := (rows.quantity? key).getD 0
      if (rows.quantity? key).isSome ∧ -(1 / 1000000000) ≤ available + posting.delta then
        guardedWrite rows key (available + posting.delta) [.balance key]
          [(key, available + posting.delta)] (at' .selectQuantity)
      else .raise (materialError 409 "NEGATIVE_INVENTORY"
        "material movement would make inventory or WIP negative"
        [("lot_code", .str posting.lot.row.lotCode),
          ("location_code", .str posting.location.2.locationCode),
          ("container_code", if key.2.2 = "" then .null else .str key.2.2),
          ("available_quantity", .float available),
          ("requested_quantity", .float (if posting.delta < 0 then -posting.delta
            else posting.delta))])
    | .selectQuantity =>
      let quantity := (rows.quantity? key).getD 0
      if quantity < 0 ∧ -(1 / 1000000000) ≤ quantity then .go [] [] (at' .clampRow)
      else .go [] [] ⟨.selectTotal, rest⟩
    | .clampRow => guardedWrite rows key 0 [.balance key] [(key, 0)] ⟨.selectTotal, rest⟩

def stockProtocol {S : Type} (transaction : S → StockTransaction) :
    Protocol S StockPhase BalanceRows (BalanceKey × Quantity) StockLock Unit Fault where
  start s := ⟨.selectTotal, (transaction s).postings⟩
  statement _ := stockStatement
  apply := BalanceRows.put

def lotPart (lotId : Nat) (rows : BalanceRows) : Bool × List (BalanceKey × Quantity) :=
  (rows.isSerial lotId, rows.quantities.filter (·.1.1 = lotId))

def SerialGood (part : Bool × List (BalanceKey × Quantity)) : Prop :=
  part.1 = true ∧ (part.2.map (·.2)).sum ≤ 1 + 1 / 1000000000

variable {S : Type} {rows : BalanceRows} {key : BalanceKey} {quantity : Quantity} {lotId : Nat}
  {locks locks' : List StockLock} {writes writes' : List (BalanceKey × Quantity)}
  {next next' phase : StockPhase}

theorem lotPart_put_own (own : key.1 = lotId) :
    lotPart lotId (rows.put (key, quantity)) =
      ((lotPart lotId rows).1,
        (lotPart lotId rows).2.filter (·.1 ≠ key) ++ [(key, quantity)]) := by
  simp [lotPart, BalanceRows.put, BalanceRows.isSerial, List.filter_filter, own, Bool.and_comm]

theorem lotPart_put_other (other : key.1 ≠ lotId) :
    lotPart lotId (rows.put (key, quantity)) = lotPart lotId rows := by
  have kept : rows.quantities.filter (fun row => row.1.1 = lotId && row.1 ≠ key) =
      rows.quantities.filter (·.1.1 = lotId) := by
    refine List.filter_congr fun row _ => ?_
    by_cases ofLot : row.1.1 = lotId
    · have ne : row.1 ≠ key := fun same => other (same ▸ ofLot)
      simp [ofLot, ne]
    · simp [ofLot]
  rw [lotPart, lotPart, BalanceRows.put, List.filter_append, List.filter_filter, kept]
  simp [BalanceRows.isSerial, other]

theorem confined_put (write : BalanceKey × Quantity) :
    Confined (lotPart lotId) BalanceRows.put write := by
  intro t t' same
  obtain ⟨key, quantity⟩ := write
  by_cases own : key.1 = lotId
  · rw [lotPart_put_own own, lotPart_put_own own, same]
  · rw [lotPart_put_other own, lotPart_put_other own, same]

theorem others_eq (own : key.1 = lotId) :
    rows.others key = (((lotPart lotId rows).2.filter (·.1 ≠ key)).map (·.2)).sum := by
  subst own
  simp [BalanceRows.others, lotPart, List.filter_filter, Bool.and_comm]

theorem guardedWrite_guarded (good : SerialGood (lotPart lotId rows))
    (write : writes = [] ∨ writes = [(key, quantity)])
    (acts : guardedWrite rows key quantity locks writes next = .go locks' writes' next') :
    (∀ w ∈ writes', Spares (lotPart lotId) BalanceRows.put w) ∨
      .lot lotId ∈ locks' ∧ SerialGood (lotPart lotId (writes'.foldl BalanceRows.put rows)) := by
  unfold guardedWrite at acts
  split at acts
  next => cases acts
  next within =>
    split at acts
    next => cases acts
    next =>
      cases acts
      rcases write with rfl | rfl
      · exact .inl (by simp)
      by_cases own : key.1 = lotId
      · have serial : rows.isSerial key.1 = true := own ▸ good.1
        refine .inr ⟨by simp [own ▸ serial, own], ?_⟩
        have total : rows.others key + quantity ≤ 1 + 1 / 1000000000 := by
          by_contra exceeds
          exact within ⟨serial, not_le.mp exceeds⟩
        rw [others_eq own] at total
        rw [List.foldl_cons, List.foldl_nil, lotPart_put_own own]
        refine ⟨good.1, ?_⟩
        simpa using total
      · exact .inl (by simpa [Spares] using fun t => lotPart_put_other own)

theorem stockStatement_guarded (good : SerialGood (lotPart lotId rows))
    (acts : stockStatement phase rows = .go locks' writes' next') :
    (∀ w ∈ writes', Spares (lotPart lotId) BalanceRows.put w) ∨
      .lot lotId ∈ locks' ∧ SerialGood (lotPart lotId (writes'.foldl BalanceRows.put rows)) := by
  obtain ⟨statement, postings⟩ := phase
  cases postings with
  | nil => cases acts
  | cons posting rest =>
    cases statement with
    | selectTotal =>
      simp only [stockStatement] at acts
      split at acts
      next => cases acts
      next =>
        cases acts
        exact .inl (by simp)
    | insertRow =>
      simp only [stockStatement] at acts
      split at acts
      next => exact guardedWrite_guarded good (.inl rfl) acts
      next => exact guardedWrite_guarded good (.inr rfl) acts
    | updateRow =>
      simp only [stockStatement] at acts
      split at acts
      next => exact guardedWrite_guarded good (.inr rfl) acts
      next => cases acts
    | selectQuantity =>
      simp only [stockStatement] at acts
      split at acts
      next =>
        cases acts
        exact .inl (by simp)
      next =>
        cases acts
        exact .inl (by simp)
    | clampRow => exact guardedWrite_guarded good (.inr rfl) acts

theorem stockProtocol_guarded (transaction : S → StockTransaction) (lotId : Nat) :
    Guarded (lotPart lotId) SerialGood (.lot lotId) (stockProtocol transaction) :=
  fun _ _ _ _ _ _ good acts =>
    ⟨fun w _ => confined_put w, stockStatement_guarded good acts⟩

def sampleSerial : MaterialLot :=
  ⟨"SN-1", 1, 1, .serial, .active, "E-1", "operator", 0⟩

def samplePlace (id : Nat) (code : String) : Place :=
  ((id, ⟨code, 1, "sample", .storage, true, "operator", 0⟩), none)

def sampleReceipts (first : Bool) : StockTransaction :=
  .movement ⟨1, sampleSerial, ⟨"MAT-1", 1⟩, ⟨"kg", "mass", 1⟩⟩ none
    (some (if first then samplePlace 1 "LOC-1" else samplePlace 2 "LOC-2")) 1

def sampleRace : List (Event Bool) :=
  [.run true, .run false, .run true, .run true, .run true, .run false, .run true, .run false,
    .run false, .run false]

/-- One of the receipts is committed, the other one raises. -/
example : ((stockProtocol sampleReceipts).exec
    ((stockProtocol sampleReceipts).init ⟨⟨[sampleSerial]⟩, []⟩) sampleRace).data.total 1 = 1 := by
  decide +kernel

end MiniOgas
