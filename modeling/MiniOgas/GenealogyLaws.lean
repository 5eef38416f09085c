import MiniOgas.Genealogy
import MiniOgas.QualityLaws

namespace MiniOgas

open Relational Serial Digraph Relation

structure GenealogySound (tables : StockTables) : Prop where
  acyclic : Acyclic tables.genealogy
  recorded : ∀ edge ∈ tables.genealogyEdges.rows, ∃ row ∈ tables.transformations.rows,
    row.transformationId = edge.transformationId

variable {env : StockEnv} {db db' : StockStore} {actor : String} {payload : TransformationIn}
  {tables tables' produced : StockTables} {inputs outputs : List TransformationLeg}
  {response : Json} {edges : Table GenealogyEdge}

theorem genealogySound_empty : GenealogySound .empty where
  acyclic := by
    intro a cycle
    obtain ⟨b, edge, -⟩ := TransGen.head'_iff.mp cycle
    simp [StockTables.genealogy, StockTables.empty, Table.empty, Edge] at edge
  recorded := by simp [StockTables.empty, Table.empty]

theorem GenealogySound.booked (sound : GenealogySound tables) (booked : Booked env tables tables') :
    GenealogySound tables' where
  acyclic := by
    rw [StockTables.genealogy, booked.edges]
    exact sound.acyclic
  recorded := by
    rw [booked.edges, booked.transformations]
    exact sound.recorded

theorem GenealogySound.unlinked (sound : GenealogySound tables)
    (passed : Passed payload tables produced inputs outputs)
    (legs : TransformationLeg × TransformationLeg) :
    Unlinked payload tables.genealogyEdges legs := by
  intro edge hedge same
  obtain ⟨row, hrow, hid⟩ := sound.recorded edge hedge
  exact absurd (hid.trans same) (passed.fresh row hrow)

theorem GenealogySound.linkLegs_iff (sound : GenealogySound tables)
    (passed : Passed payload tables produced inputs outputs) :
    linkLegs env payload tables inputs outputs = .ok edges ↔
      ¬ ClosesCycle tables inputs outputs ∧ (¬ Repeats inputs ∧ ¬ Repeats outputs) ∧
        tables.genealogyEdges.insertAll ((legPairs inputs outputs).map (edgeOf env payload)) =
          edges := by
  rw [← checks_eq_ok_iff sound.acyclic, ← nodup_lotsOf passed.inputs_ne passed.outputs_ne,
    linkLegs, bind_eq_ok]
  simp only [bind_eq_ok, insertEdges_eq_ok]
  constructor
  · rintro ⟨_, distinct, _, apart, -, nodup, result⟩
    exact ⟨⟨distinct, apart⟩, nodup, result⟩
  · rintro ⟨⟨distinct, apart⟩, nodup, result⟩
    exact ⟨(), distinct, (), apart, fun legs _ => sound.unlinked passed legs, nodup, result⟩

theorem recordTransformation_sound (sound : GenealogySound db.tables)
    (h : recordTransformation env db actor payload = .ok (response, db')) :
    GenealogySound db'.tables := by
  rcases recordTransformation_eq_ok h with rfl | ⟨inputs, outputs, produced, edges, passes,
    linked, hdb⟩
  · exact sound
  have passed := passOtherChecks_passed passes
  obtain ⟨open', -, rfl⟩ := (sound.linkLegs_iff passed).mp linked
  obtain ⟨row, hid, htransformations⟩ := passed.transformations
  rw [hdb]
  constructor
  · have extended : StockTables.genealogy { produced with
        genealogyEdges := (db.tables.genealogyEdges.insertAll
          ((legPairs inputs outputs).map (edgeOf env payload))) } =
        Extend db.tables.genealogy (OfLegs inputs) (OfLegs outputs) := by
      funext a b
      exact propext edge_insertAll
    rw [extended]
    exact not_not.mp open'
  · intro edge hedge
    rw [htransformations]
    simp only [Table.insertAll, Table.insert, List.mem_append, List.mem_singleton] at hedge ⊢
    rcases hedge with hedge | hedge
    · obtain ⟨old, hold, same⟩ := sound.recorded edge hedge
      exact ⟨old, .inl hold, same⟩
    · obtain ⟨legs, -, rfl⟩ := List.mem_map.mp hedge
      exact ⟨row, .inr rfl, hid⟩

theorem genealogySound_run (calls : List StockCall) :
    GenealogySound (stockAuthority.run .empty calls).tables := by
  refine Authority.invariant (I := fun db : StockStore => GenealogySound db.tables) ?_ calls
    genealogySound_empty
  intro db call reply db' sound h
  rcases perform_booked h with booked | ⟨payload, hoperation⟩
  · exact sound.booked booked
  · change call.operation.perform call.env call.actor db = .ok (reply, db') at h
    rw [hoperation] at h
    exact recordTransformation_sound sound h

theorem GenealogySound.refused_iff (sound : GenealogySound db.tables)
    (passes : passOtherChecks env db.tables actor payload = .ok (inputs, outputs, produced)) :
    RefusedForGenealogy (recordTransformation env db actor payload) ↔
      ClosesCycle db.tables inputs outputs ∨ Repeats inputs ∨ Repeats outputs := by
  rw [refused_iff_unlinked passes]
  simp only [sound.linkLegs_iff (passOtherChecks_passed passes)]
  constructor
  · intro refused
    by_contra open'
    push Not at open'
    exact refused ⟨_, open'.1, open'.2, rfl⟩
  · rintro closes ⟨edges, open', ⟨first, second⟩, -⟩
    rcases closes with closes | closes | closes
    · exact open' closes
    · exact first closes
    · exact second closes

/-- The genealogy is acyclic in every run. A transformation that passes all other checks is
refused for its genealogy only if it would close a cycle, as long as no lot occurs in two legs on
one side, and is refused without a cycle otherwise. -/
theorem genealogy_run (calls : List StockCall) :
    Acyclic (stockAuthority.run .empty calls).tables.genealogy ∧
      ∀ call payload inputs outputs produced, call.operation = .recordTransformation payload →
        passOtherChecks call.env (stockAuthority.run .empty calls).tables call.actor payload =
          .ok (inputs, outputs, produced) →
        ((RefusedForGenealogy (stockAuthority.attempt call (stockAuthority.run .empty calls)) →
            ClosesCycle (stockAuthority.run .empty calls).tables inputs outputs) ↔
          (Repeats inputs ∨ Repeats outputs →
            ClosesCycle (stockAuthority.run .empty calls).tables inputs outputs)) := by
  have sound := genealogySound_run calls
  refine ⟨sound.acyclic, fun call payload inputs outputs produced hoperation passes => ?_⟩
  have refused := sound.refused_iff passes
  have attempt : stockAuthority.attempt call (stockAuthority.run .empty calls) =
      recordTransformation call.env (stockAuthority.run .empty calls) call.actor payload := by
    change call.operation.perform call.env call.actor _ = _
    rw [hoperation]
    rfl
  rw [attempt, refused]
  constructor
  · exact fun only repeats => only (.inr repeats)
  · rintro only (closes | repeats)
    · exact closes
    · exact only repeats

def sampleStockEnv : StockEnv where
  now := 0
  uoms := ⟨[⟨"kg", "mass", 1⟩]⟩
  materials := ⟨[⟨"MAT-1", 1⟩]⟩
  execution := .empty
  maintenance := .empty
  openHold := fun _ => none
  auditAccepted := fun _ => true

def sampleStock : List StockCall :=
  [StockOperation.createWarehouse ⟨sampleCode "WH-1", sampleName, .raw⟩,
    .createLocation ⟨sampleCode "LOC-1", sampleCode "WH-1", sampleName,
      .storage⟩,
    .createLocation ⟨sampleCode "LOC-2", sampleCode "WH-1", sampleName,
      .storage⟩,
    .createLot ⟨sampleCode "LOT-1", sampleCode "MAT-1", .lot, sampleReference⟩,
    .createLot ⟨sampleCode "LOT-2", sampleCode "MAT-1", .lot, sampleReference⟩,
    sampleMovement "MV-1" "LOC-1" 9, sampleMovement "MV-2" "LOC-2" 9].map fun operation =>
    ⟨sampleStockEnv, "operator", operation⟩

def sampleLeg (lotCode locationCode : String) (n : Nat) : TransformationLegIn :=
  ⟨sampleCode lotCode, n + 1, sampleCode locationCode, none, quantity_pos n⟩

def sampleMerge : TransformationIn where
  transformationId := (sampleCode "TR-1")
  transformationType := .merge
  inputs := [sampleLeg "LOT-1" "LOC-1" 9, sampleLeg "LOT-1" "LOC-2" 9]
  outputs := [sampleLeg "LOT-2" "LOC-1" 19]
  operationTaskId := none
  reason := sampleReason
  evidenceReference := sampleReference
  conversionEvidenceReference := .empty
  occurredAt := 0
  inputs_bounds := by decide
  outputs_bounds := by decide
  operationTaskId_pos := taskId_none
  shaped := by decide
  bound := by decide
  inputs_unique := by decide +kernel
  outputs_unique := by decide +kernel

def sampleMerged : List TransformationLeg × List TransformationLeg × StockTables :=
  match passOtherChecks sampleStockEnv (stockAuthority.run .empty sampleStock).tables "operator"
    sampleMerge with
  | .ok merged => merged
  | .error _ => ([], [], .empty)

theorem sampleMerge_passes :
    passOtherChecks sampleStockEnv (stockAuthority.run .empty sampleStock).tables "operator"
      sampleMerge = .ok sampleMerged := by
  have ok : (passOtherChecks sampleStockEnv (stockAuthority.run .empty sampleStock).tables
    "operator" sampleMerge).isOk = true := by decide +kernel
  obtain ⟨merged, h⟩ := exists_ok ok
  rw [sampleMerged, h]

theorem genealogy_run_merge :
    (RefusedForGenealogy (stockAuthority.attempt
          ⟨sampleStockEnv, "operator", .recordTransformation sampleMerge⟩
          (stockAuthority.run .empty sampleStock)) →
        ClosesCycle (stockAuthority.run .empty sampleStock).tables sampleMerged.1
          sampleMerged.2.1) ↔
      (Repeats sampleMerged.1 ∨ Repeats sampleMerged.2.1 →
        ClosesCycle (stockAuthority.run .empty sampleStock).tables sampleMerged.1
          sampleMerged.2.1) :=
  (genealogy_run sampleStock).2 ⟨sampleStockEnv, "operator", .recordTransformation sampleMerge⟩
    sampleMerge _ _ _ rfl sampleMerge_passes

/-- The stock of one lot cannot be merged from two locations, although that closes no cycle. -/
theorem merge_of_one_lot_refused :
    ¬ ∀ calls call payload inputs outputs produced, call.operation = .recordTransformation payload →
      passOtherChecks call.env (stockAuthority.run .empty calls).tables call.actor payload =
        .ok (inputs, outputs, produced) →
      RefusedForGenealogy (stockAuthority.attempt call (stockAuthority.run .empty calls)) →
      ClosesCycle (stockAuthority.run .empty calls).tables inputs outputs := by
  intro only
  have sound := genealogySound_run sampleStock
  have repeats : Repeats sampleMerged.1 := by
    unfold Repeats
    decide +kernel
  have closes := only sampleStock ⟨sampleStockEnv, "operator", .recordTransformation sampleMerge⟩
    sampleMerge _ _ _ rfl sampleMerge_passes
    ((sound.refused_iff sampleMerge_passes).mpr (.inr (.inl repeats)))
  refine (checks_eq_ok_iff sound.acyclic).mp ⟨?_, ?_⟩ closes
  · exact (exists_ok (by decide +kernel)).choose_spec
  · exact (exists_ok (by decide +kernel)).choose_spec

end MiniOgas
