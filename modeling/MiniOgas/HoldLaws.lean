import MiniOgas.Genealogy
import MiniOgas.QualityLaws

namespace MiniOgas

open Relational Serial

variable {env : QualityEnv} {stockEnv : StockEnv} {db db' : QualityStore}
  {store store' : StockStore} {actor : String} {response : Json} {lotId : Nat}
  {payload : AuthorizationIn}

theorem perform_spared {operation : StockOperation} (held : stockEnv.openHold lotId ≠ none)
    (h : operation.perform stockEnv actor store = .ok (response, store')) :
    SameStock lotId store.tables store'.tables := by
  rcases perform_booked h with booked | ⟨payload, rfl⟩
  · exact booked.spared lotId held
  rcases recordTransformation_eq_ok h with rfl | ⟨inputs, outputs, produced, edges, passes, -,
    htables⟩
  · exact .refl _ _
  · have spared := passOtherChecks_spared passes held
    rw [htables]
    exact ⟨spared.balances, spared.movements⟩

theorem qualified_stock {body : QualityTables → Except Fault QualityOutcome}
    (h : qualified env db actor body = .ok (response, db'))
    (keeps : ∀ outcome, body db.tables = .ok outcome → outcome.stock = db.stock) :
    SameStock lotId db.stock db'.stock := by
  obtain ⟨outcome, hbody, -, hdb⟩ := qualified_tables h
  exact .of_eq (hdb.symm.trans (keeps outcome hbody))

theorem attempt_spared {call : QualityCall} (held : db.tables.openHold lotId ≠ none)
    (h : call.attempt db = .ok (response, db')) : SameStock lotId db.stock db'.stock := by
  unfold QualityCall.attempt at h
  split at h
  case h_1 | h_2 | h_4 | h_6 | h_9 =>
    refine qualified_stock h fun outcome hbody => ?_
    repeat obtain ⟨_, -, hbody⟩ := of_bind hbody
    cases hbody
    rfl
  case h_3 | h_8 | h_10 =>
    obtain ⟨_, -, h⟩ := of_bind h
    dsimp only at h
    split at h
    next => exact .of_eq (congrArg QualityStore.stock (unchanged_eq_ok h))
    next =>
      refine qualified_stock h fun outcome hbody => ?_
      repeat obtain ⟨_, -, hbody⟩ := of_bind hbody
      cases hbody
      rfl
  case h_5 =>
    unfold recordMeasurement at h
    split at h
    next =>
      replace h := of_then h
      exact .of_eq (congrArg QualityStore.stock (unchanged_eq_ok h))
    next =>
      refine qualified_stock h fun outcome hbody => ?_
      repeat obtain ⟨_, -, hbody⟩ := of_bind hbody
      cases hbody
      rfl
  case h_7 =>
    obtain ⟨⟨id, disposition⟩, -, h⟩ := of_bind h
    dsimp only at h
    split at h
    next => exact .of_eq (congrArg QualityStore.stock (unchanged_eq_ok h))
    next =>
      obtain ⟨outcome, hbody, -, hdb⟩ := qualified_tables h
      rw [← hdb]
      repeat obtain ⟨_, -, hbody⟩ := of_bind hbody
      cases hbody
      split
      next => exact ⟨.refl _, .refl _⟩
      next => exact .refl _ _
  next =>
    obtain ⟨⟨response, store⟩, hperform, h⟩ := of_bind h
    cases h
    exact perform_spared held hperform

/-- A hold stays, and while it is open its row and the stock of its lot stay as they are. -/
def Frozen (db db' : QualityStore) : Prop :=
  ∀ id hold, db.tables.holds.find? id = some hold →
    ∃ hold', db'.tables.holds.find? id = some hold' ∧
      (hold'.status = .open → hold' = hold ∧ SameStock hold.lotId db.stock db'.stock)

variable {db db' db'' : QualityStore} {response : Json} {id : Nat} {hold : QualityHold}

theorem Frozen.refl (db : QualityStore) : Frozen db db :=
  fun _ hold found => ⟨hold, found, fun _ => ⟨rfl, .refl _ _⟩⟩

theorem Frozen.trans (first : Frozen db db') (second : Frozen db' db'') : Frozen db db'' := by
  intro id hold found
  obtain ⟨mid, hmid, before⟩ := first id hold found
  obtain ⟨last, hlast, after⟩ := second id mid hmid
  refine ⟨last, hlast, fun isOpen => ?_⟩
  obtain ⟨rfl, later⟩ := after isOpen
  obtain ⟨rfl, earlier⟩ := before isOpen
  exact ⟨rfl, earlier.trans later⟩

theorem openHold_ne_none {tables : QualityTables} (found : tables.holds.find? id = some hold)
    (isOpen : hold.status = .open) : tables.openHold hold.lotId ≠ none := by
  intro none
  have := Table.first?_eq_none_iff.mp (Option.map_eq_none_iff.mp none) id hold found
  simp [isOpen] at this

theorem hold_kept {operation : QualityOperation} {tables tables' : QualityTables}
    (effect : QualityEffect operation tables tables') (found : tables.holds.find? id = some hold) :
    ∃ hold', tables'.holds.find? id = some hold' ∧ (hold'.status = .open → hold' = hold) := by
  have same : tables'.holds = tables.holds → ∃ hold', tables'.holds.find? id = some hold' ∧
      (hold'.status = .open → hold' = hold) := by
    intro holds
    exact ⟨hold, by rw [holds]; exact found, fun _ => rfl⟩
  have resolved : ∀ inspectionId, HoldsResolved tables.holds tables'.holds inspectionId →
      ∃ hold', tables'.holds.find? id = some hold' ∧ (hold'.status = .open → hold' = hold) := by
    rintro inspectionId ⟨resolve, closes, holds⟩
    refine ⟨_, by rw [holds, Table.find?_updateWhere, found]; rfl, fun isOpen => ?_⟩
    dsimp only at isOpen ⊢
    split at isOpen
    next => exact absurd isOpen (closes hold).2
    next other => rw [if_neg other]
  cases effect with
  | kept inspections holds => exact same holds
  | opened inspection new status isOpen ofNew inspections holds =>
    exact ⟨hold, by rw [holds]; exact Table.find?_insert_of_find? new found, fun _ => rfl⟩
  | evaluated inspectionId row row' hrow status judged inspections holds => exact same holds
  | reworked disposition inspectionId row row' approval type status inspections holds =>
    exact same holds
  | disposed disposition inspectionId row row' approval type status inspections holds =>
    exact resolved inspectionId holds
  | released inspectionId row row' hrow judged status inspections holds =>
    exact resolved inspectionId holds

theorem attempt_frozen {call : QualityCall} (h : call.attempt db = .ok (response, db')) :
    Frozen db db' := by
  intro id hold found
  obtain ⟨hold', found', kept⟩ := hold_kept (quality_effect h) found
  refine ⟨hold', found', fun isOpen => ?_⟩
  obtain rfl := kept isOpen
  exact ⟨rfl, attempt_spared (openHold_ne_none found isOpen) h⟩

theorem frozen_run (db : QualityStore) (calls : List QualityCall) :
    Frozen db (qualityAuthority.run db calls) :=
  Authority.related (I := fun _ => True) (fun _ _ => trivial) Frozen.refl Frozen.trans
    (fun _ h => attempt_frozen h) calls trivial

/-- From the time a hold is open until it is resolved the balances and the movements of its lot
stay as they are, whatever is called, and a refused call leaves all tables as they are. -/
theorem held_stock_frozen (calls later : List QualityCall) :
    (∀ id hold, (qualityAuthority.run .empty calls).tables.holds.find? id = some hold →
      ∀ hold', (qualityAuthority.run .empty (calls ++ later)).tables.holds.find? id = some hold' →
      hold'.status = .open →
      SameStock hold.lotId (qualityAuthority.run .empty calls).stock
        (qualityAuthority.run .empty (calls ++ later)).stock) ∧
    ∀ call fault,
      qualityAuthority.attempt call (qualityAuthority.run .empty (calls ++ later)) = .error fault →
      qualityAuthority.run .empty (calls ++ later ++ [call]) =
        qualityAuthority.run .empty (calls ++ later) := by
  constructor
  · intro id hold found hold' found' isOpen
    rw [Authority.run_append] at found' ⊢
    obtain ⟨last, hlast, frozen⟩ :=
      frozen_run (qualityAuthority.run .empty calls) later id hold found
    rw [found'] at hlast
    obtain rfl := Option.some.inj hlast
    exact (frozen isOpen).2
  · intro call fault refused
    rw [Authority.run_append, Authority.run_cons, Authority.run_nil, Authority.serve, refused]

def sampleIssue : QualityCall :=
  sampleQualityCall (.stock (sampleMovement "MV-2" "LOC-1" 4))

theorem held_stock_frozen_issue :
    ∃ hold, (qualityAuthority.run .empty
        (sampleReceipt ++ sampleFailure .rework .scrap)).tables.holds.find? 1 = some hold ∧
      SameStock hold.lotId
        (qualityAuthority.run .empty (sampleReceipt ++ sampleFailure .rework .scrap)).stock
        (qualityAuthority.run .empty
          (sampleReceipt ++ sampleFailure .rework .scrap ++ [sampleIssue])).stock := by
  obtain ⟨hold, found⟩ := Option.isSome_iff_exists.mp (show ((qualityAuthority.run .empty
    (sampleReceipt ++ sampleFailure .rework .scrap)).tables.holds.find? 1).isSome = true by
      decide +kernel)
  obtain ⟨hold', found', isOpen⟩ := (Option.any_eq_true _ _).mp (show ((qualityAuthority.run .empty
    (sampleReceipt ++ sampleFailure .rework .scrap ++ [sampleIssue])).tables.holds.find? 1).any
      (·.status = .open) = true by decide +kernel)
  exact ⟨hold, found,
    (held_stock_frozen (sampleReceipt ++ sampleFailure .rework .scrap) [sampleIssue]).1 1 hold found
      hold' found' (of_decide_eq_true isOpen)⟩

end MiniOgas
