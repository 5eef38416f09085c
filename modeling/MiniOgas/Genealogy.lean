import MiniOgas.StockFrame
import MiniOgas.Digraph

namespace MiniOgas

open Relational Serial Digraph Relation

def GenealogyEdge.lots (edge : GenealogyEdge) : Nat × Nat := (edge.parentLotId, edge.childLotId)

/-- The genealogy: an edge from every lot to the lots made from it. -/
def StockTables.genealogy (tables : StockTables) : Nat → Nat → Prop :=
  Edge (tables.genealogyEdges.rows.map (·.lots))

def OfLegs (legs : List TransformationLeg) (lotId : Nat) : Prop :=
  ∃ leg ∈ legs, leg.lot.id = lotId

variable {tables : StockTables} {edges : List GenealogyEdge} {lotId parent child : Nat}
  {inputs outputs : List TransformationLeg}

theorem edge_lots_iff {a b : Nat} :
    Edge (edges.map (·.lots)) a b ↔ ∃ edge ∈ edges, edge.parentLotId = a ∧ edge.childLotId = b := by
  simp [Edge, GenealogyEdge.lots]

theorem isRound_withChildren (edges : List GenealogyEdge) :
    IsRound (edges.map (·.lots)) (withChildren edges) := by
  intro found x
  simp only [withChildren, List.mem_dedup, List.mem_append, List.mem_map, List.mem_filter,
    decide_eq_true_eq, edge_lots_iff]
  constructor
  · rintro (old | ⟨edge, ⟨member, below⟩, rfl⟩)
    · exact .inl old
    · exact .inr ⟨_, below, edge, member, rfl, rfl⟩
  · rintro (old | ⟨p, below, edge, member, rfl, rfl⟩)
    · exact .inl old
    · exact .inr ⟨edge, ⟨member, below⟩, rfl⟩

theorem mem_descendants_iff {x : Nat} :
    x ∈ descendants edges lotId ↔ TransGen (Edge (edges.map (·.lots))) lotId x := by
  have start : ∀ s, s ∈ ((edges.filter (·.parentLotId = lotId)).map (·.childLotId)).dedup ↔
      Edge (edges.map (·.lots)) lotId s := by
    intro s
    simp only [List.mem_dedup, List.mem_map, List.mem_filter, decide_eq_true_eq, edge_lots_iff]
    exact ⟨fun ⟨edge, ⟨member, below⟩, hs⟩ => ⟨edge, member, below, hs⟩,
      fun ⟨edge, member, below, hs⟩ => ⟨edge, ⟨member, below⟩, hs⟩⟩
  have rounds := mem_rounds_iff (isRound_withChildren edges)
    (fun s hs => ⟨lotId, (start s).mp hs⟩) (x := x)
  rw [List.length_map] at rounds
  rw [descendants, List.foldl_const, List.length_range, rounds, TransGen.head'_iff]
  simp only [start]

theorem assertNoGenealogyCycle_eq_ok {u : Unit} :
    assertNoGenealogyCycle tables parent child = .ok u ↔
      ¬ TransGen tables.genealogy child parent := by
  rw [assertNoGenealogyCycle, check_eq_ok, mem_descendants_iff]
  rfl

theorem assertDistinctLots_eq_ok {u : Unit} :
    assertDistinctLots inputs outputs = .ok u ↔
      ∀ lotId, OfLegs inputs lotId → ¬ OfLegs outputs lotId := by
  simp only [assertDistinctLots, check_eq_ok, List.map_eq_nil_iff, List.filter_eq_nil_iff,
    List.any_eq_true, decide_eq_true_eq, OfLegs]
  constructor
  · rintro apart _ ⟨leg, hleg, rfl⟩ shared
    exact apart leg hleg shared
  · intro apart leg hleg shared
    exact apart leg.lot.id ⟨leg, hleg, rfl⟩ shared

def legPairs (inputs outputs : List TransformationLeg) :
    List (TransformationLeg × TransformationLeg) :=
  inputs.flatMap fun parent => outputs.map (parent, ·)

theorem mem_legPairs {legs : TransformationLeg × TransformationLeg} :
    legs ∈ legPairs inputs outputs ↔ legs.1 ∈ inputs ∧ legs.2 ∈ outputs := by
  obtain ⟨parent, child⟩ := legs
  simp [legPairs]

theorem cycleChecks_eq_ok {u : Unit} :
    ((legPairs inputs outputs).forM fun pair =>
        assertNoGenealogyCycle tables pair.1.lot.id pair.2.lot.id) = .ok u ↔
      ∀ i o, OfLegs inputs i → OfLegs outputs o → ¬ TransGen tables.genealogy o i := by
  simp only [forM_eq_ok, assertNoGenealogyCycle_eq_ok, Prod.forall, mem_legPairs, OfLegs]
  constructor
  · rintro apart _ _ ⟨input, hinput, rfl⟩ ⟨output, houtput, rfl⟩
    exact apart input output ⟨hinput, houtput⟩
  · rintro apart input output ⟨hinput, houtput⟩
    exact apart _ _ ⟨input, hinput, rfl⟩ ⟨output, houtput, rfl⟩

/-- The transformation of the legs would close a cycle. -/
def ClosesCycle (tables : StockTables) (inputs outputs : List TransformationLeg) : Prop :=
  ¬ Acyclic (Extend tables.genealogy (OfLegs inputs) (OfLegs outputs))

theorem checks_eq_ok_iff (acyclic : Acyclic tables.genealogy) :
    (assertDistinctLots inputs outputs = .ok () ∧
      ((legPairs inputs outputs).forM fun pair =>
        assertNoGenealogyCycle tables pair.1.lot.id pair.2.lot.id) = .ok ()) ↔
      ¬ ClosesCycle tables inputs outputs := by
  rw [assertDistinctLots_eq_ok, cycleChecks_eq_ok, ClosesCycle, not_not,
    acyclic_extend_iff acyclic]
  constructor
  · rintro ⟨distinct, apart⟩ i o hi ho path
    rcases reflTransGen_iff_eq_or_transGen.mp path with same | path
    · exact distinct i hi (same ▸ ho)
    · exact apart i o hi ho path
  · intro apart
    exact ⟨fun lotId hi ho => apart lotId lotId hi ho .refl,
      fun i o hi ho path => apart i o hi ho path.to_reflTransGen⟩

variable {env : StockEnv} {db db' : StockStore} {actor : String} {payload : TransformationIn}
  {tables : StockTables} {edges edges' : Table GenealogyEdge}
  {inputs outputs : List TransformationLeg}
  {pairs : List (TransformationLeg × TransformationLeg)} {response : Json} {fault : Fault}
  {legs : TransformationLeg × TransformationLeg}

def edgeOf (env : StockEnv) (payload : TransformationIn)
    (legs : TransformationLeg × TransformationLeg) : GenealogyEdge :=
  ⟨payload.transformationId.value, legs.1.lot.id, legs.2.lot.id, legs.1.quantity,
    legs.2.quantity, payload.transformationType, payload.evidenceReference.value, env.now⟩

def lotsOf (legs : TransformationLeg × TransformationLeg) : Nat × Nat :=
  (legs.1.lot.id, legs.2.lot.id)

def duplicateEdge : Fault :=
  materialError 409 "DUPLICATE_GENEALOGY_EDGE" "material genealogy edge already exists"

def Unlinked (payload : TransformationIn) (edges : Table GenealogyEdge)
    (legs : TransformationLeg × TransformationLeg) : Prop :=
  ∀ edge ∈ edges.rows, edge.transformationId = payload.transformationId.value →
    edge.lots ≠ lotsOf legs

theorem insertEdge_eq_ok :
    insertEdge env payload edges legs = .ok edges' ↔
      Unlinked payload edges legs ∧ edges.insert (edgeOf env payload legs) = edges' := by
  have unlinked : (edges.any fun row => row.transformationId = payload.transformationId.value &&
      row.parentLotId = legs.1.lot.id && row.childLotId = legs.2.lot.id) = false ↔
        Unlinked payload edges legs := by
    simp [Table.any, Unlinked, GenealogyEdge.lots, lotsOf]
  rw [insertEdge, insertMaterial_eq_ok, unlinked]
  rfl

theorem insertEdge_error (h : insertEdge env payload edges legs = .error fault) :
    fault = duplicateEdge := by
  unfold insertEdge insertMaterial Table.insertUnique at h
  split at h
  next => exact (Except.error.inj h).symm
  next => cases h

theorem insertEdges_eq_ok :
    pairs.foldlM (insertEdge env payload) edges = .ok edges' ↔
      (∀ legs ∈ pairs, Unlinked payload edges legs) ∧ (pairs.map lotsOf).Nodup ∧
        edges.insertAll (pairs.map (edgeOf env payload)) = edges' := by
  induction pairs generalizing edges with
  | nil => simp [pure, Except.pure]
  | cons legs pairs ih =>
    rw [List.foldlM_cons, bind_eq_ok]
    have later :
        (∀ other ∈ pairs, Unlinked payload (edges.insert (edgeOf env payload legs)) other) ↔
          (∀ other ∈ pairs, Unlinked payload edges other) ∧ lotsOf legs ∉ pairs.map lotsOf := by
      simp only [Unlinked, Table.insert, List.mem_append, List.mem_singleton, List.mem_map]
      constructor
      · intro unlinked
        refine ⟨fun other hother edge hedge => unlinked other hother edge (.inl hedge), ?_⟩
        rintro ⟨other, hother, same⟩
        exact unlinked other hother _ (.inr rfl) rfl same.symm
      · rintro ⟨unlinked, apart⟩ other hother edge (hedge | rfl) hid same
        · exact unlinked other hother edge hedge hid same
        · exact apart ⟨other, hother, same.symm⟩
    simp only [insertEdge_eq_ok, List.mem_cons, forall_eq_or_imp, List.map_cons, List.nodup_cons,
      ← Table.insertAll_insert]
    constructor
    · rintro ⟨_, ⟨first, rfl⟩, rest⟩
      obtain ⟨unlinked, distinct, result⟩ := ih.mp rest
      obtain ⟨unlinked, apart⟩ := later.mp unlinked
      exact ⟨⟨first, unlinked⟩, ⟨apart, distinct⟩, result⟩
    · rintro ⟨⟨first, unlinked⟩, ⟨apart, distinct⟩, result⟩
      exact ⟨_, ⟨first, rfl⟩, ih.mpr ⟨later.mpr ⟨unlinked, apart⟩, distinct, result⟩⟩

theorem insertEdges_error (h : pairs.foldlM (insertEdge env payload) edges = .error fault) :
    fault = duplicateEdge := by
  induction pairs generalizing edges with
  | nil => cases h
  | cons legs pairs ih =>
    rw [List.foldlM_cons] at h
    cases first : insertEdge env payload edges legs with
    | ok mid =>
      rw [first] at h
      exact ih h
    | error raised =>
      rw [first] at h
      cases Except.error.inj h
      exact insertEdge_error first

theorem nodup_of_nodup_pairs {α β : Type} {xs : List α} {ys : List β} {y : β} (hy : y ∈ ys)
    (h : (xs.flatMap fun x => ys.map (x, ·)).Nodup) : xs.Nodup := by
  induction xs with
  | nil => exact List.nodup_nil
  | cons x xs ih =>
    rw [List.flatMap_cons, List.nodup_append] at h
    obtain ⟨-, rest, apart⟩ := h
    refine List.nodup_cons.mpr ⟨fun again => ?_, ih rest⟩
    refine apart (x, y) (List.mem_map_of_mem hy) (x, y) ?_ rfl
    exact List.mem_flatMap.mpr ⟨x, again, List.mem_map_of_mem hy⟩

theorem nodup_pairs_iff {α β : Type} {xs : List α} {ys : List β} (hxs : xs ≠ [])
    (hys : ys ≠ []) : (xs.flatMap fun x => ys.map (x, ·)).Nodup ↔ xs.Nodup ∧ ys.Nodup := by
  obtain ⟨x, xs, rfl⟩ := List.exists_cons_of_ne_nil hxs
  obtain ⟨y, ys, rfl⟩ := List.exists_cons_of_ne_nil hys
  constructor
  · intro h
    refine ⟨nodup_of_nodup_pairs List.mem_cons_self h, ?_⟩
    rw [List.flatMap_cons, List.nodup_append] at h
    exact h.1.of_map
  · rintro ⟨first, second⟩
    exact first.product second

/-- A lot occurs in two legs on one side. -/
def Repeats (legs : List TransformationLeg) : Prop := ¬ (legs.map (·.lot.id)).Nodup

theorem nodup_lotsOf (hinputs : inputs ≠ []) (houtputs : outputs ≠ []) :
    ((legPairs inputs outputs).map lotsOf).Nodup ↔ ¬ Repeats inputs ∧ ¬ Repeats outputs := by
  have same : (legPairs inputs outputs).map lotsOf =
      (inputs.map (·.lot.id)).flatMap fun x => (outputs.map (·.lot.id)).map (x, ·) := by
    simp [legPairs, lotsOf, List.flatMap_map, List.map_flatMap, Function.comp_def]
  rw [same, nodup_pairs_iff (by simpa using hinputs) (by simpa using houtputs)]
  simp only [Repeats, not_not]

theorem edge_insertAll {a b : Nat} :
    Edge ((edges.insertAll ((legPairs inputs outputs).map (edgeOf env payload))).rows.map
        (·.lots)) a b ↔
      Extend (Edge (edges.rows.map (·.lots))) (OfLegs inputs) (OfLegs outputs) a b := by
  simp only [Table.insertAll, List.map_append, Edge, Extend, List.mem_append, List.map_map]
  refine or_congr Iff.rfl ?_
  simp only [List.mem_map, Function.comp_apply, GenealogyEdge.lots, edgeOf, Prod.mk.injEq,
    Prod.exists, mem_legPairs, OfLegs]
  constructor
  · rintro ⟨input, output, ⟨hinput, houtput⟩, ha, hb⟩
    exact ⟨⟨input, hinput, ha⟩, ⟨output, houtput, hb⟩⟩
  · rintro ⟨⟨input, hinput, ha⟩, ⟨output, houtput, hb⟩⟩
    exact ⟨input, output, ⟨hinput, houtput⟩, ha, hb⟩

variable {env : StockEnv} {db db' : StockStore} {actor : String} {payload : TransformationIn}
  {tables produced : StockTables} {inputs outputs : List TransformationLeg} {response : Json}

/-- The body of `record_transformation` without its genealogy checks and genealogy edges. -/
def passOtherChecks [Arithmetic] (env : StockEnv) (tables : StockTables) (actor : String)
    (payload : TransformationIn) :
    Except Fault (List TransformationLeg × List TransformationLeg × StockTables) := do
  payload.operationTaskId.forM fun taskId =>
    requireOperationTask env taskId payload.transformationType.text
  let inputs ← payload.inputs.mapM (resolveTransformationLeg env tables)
  let outputs ← payload.outputs.mapM (resolveTransformationLeg env tables)
  validateConservation payload inputs outputs
  let transformations ← insertMaterial tables.transformations
    (·.transformationId = payload.transformationId.value)
    ⟨payload.transformationId.value, payload.transformationType, payload.operationTaskId,
      payload.reason.value, payload.evidenceReference.value,
      payload.conversionEvidenceReference.value, requestHash payload.json, payload.occurredAt,
      actor, env.now⟩
    "DUPLICATE_TRANSFORMATION" "material transformation identifier already exists"
  let consumed ← inputs.zipIdx.foldlM (postLeg env actor payload .into)
    { tables with transformations }
  let produced ← outputs.zipIdx.foldlM (postLeg env actor payload .out) consumed
  return (inputs, outputs, produced)

def genealogyCodes : List String :=
  ["GENEALOGY_SELF_REFERENCE", "GENEALOGY_CYCLE", "DUPLICATE_GENEALOGY_EDGE"]

def RefusedForGenealogy {α : Type} (result : Except Fault α) : Prop :=
  ∃ error, result = .error (.materialFlow error) ∧ error.code ∈ genealogyCodes

def linkLegs (env : StockEnv) (payload : TransformationIn) (tables : StockTables)
    (inputs outputs : List TransformationLeg) : Except Fault (Table GenealogyEdge) := do
  assertDistinctLots inputs outputs
  (legPairs inputs outputs).forM fun pair =>
    assertNoGenealogyCycle tables pair.1.lot.id pair.2.lot.id
  (legPairs inputs outputs).foldlM (insertEdge env payload) tables.genealogyEdges

theorem mapM_ne_nil {α β : Type} {f : α → Except Fault β} {xs : List α} {ys : List β}
    (h : xs.mapM f = .ok ys) (ne : xs ≠ []) : ys ≠ [] := by
  obtain ⟨x, xs, rfl⟩ := List.exists_cons_of_ne_nil ne
  rw [List.mapM_cons] at h
  obtain ⟨y, -, h⟩ := of_bind h
  obtain ⟨ys, -, h⟩ := of_bind h
  cases h
  exact List.cons_ne_nil y ys

structure Passed (payload : TransformationIn) (tables produced : StockTables)
    (inputs outputs : List TransformationLeg) : Prop where
  inputs_ne : inputs ≠ []
  outputs_ne : outputs ≠ []
  edges : produced.genealogyEdges = tables.genealogyEdges
  fresh : ∀ row ∈ tables.transformations.rows,
    row.transformationId ≠ payload.transformationId.value
  transformations : ∃ row, row.transformationId = payload.transformationId.value ∧
    produced.transformations = tables.transformations.insert row

/-- What a transformation writes before its edges: its row and the postings of its legs. -/
theorem passOtherChecks_writes [Arithmetic]
    (h : passOtherChecks env tables actor payload = .ok (inputs, outputs, produced)) :
    ∃ row consumed, payload.inputs.mapM (resolveTransformationLeg env tables) = .ok inputs ∧
      payload.outputs.mapM (resolveTransformationLeg env tables) = .ok outputs ∧
      tables.transformations.any (·.transformationId = payload.transformationId.value) = false ∧
      row.transformationId = payload.transformationId.value ∧
      inputs.zipIdx.foldlM (postLeg env actor payload .into)
        { tables with transformations := tables.transformations.insert row } = .ok consumed ∧
      outputs.zipIdx.foldlM (postLeg env actor payload .out) consumed = .ok produced := by
  replace h := of_then h
  obtain ⟨inputs', hinputs, h⟩ := of_bind h
  obtain ⟨outputs', houtputs, h⟩ := of_bind h
  replace h := of_then h
  obtain ⟨transformations, hinsert, h⟩ := of_bind h
  obtain ⟨consumed, hconsumed, h⟩ := of_bind h
  obtain ⟨produced', hproduced, h⟩ := of_bind h
  cases h
  obtain ⟨fresh, rfl⟩ := insertMaterial_eq_ok.mp hinsert
  exact ⟨_, consumed, hinputs, houtputs, fresh, rfl, hconsumed, hproduced⟩

theorem passOtherChecks_passed [Arithmetic]
    (h : passOtherChecks env tables actor payload = .ok (inputs, outputs, produced)) :
    Passed payload tables produced inputs outputs := by
  obtain ⟨row, consumed, hinputs, houtputs, fresh, own, hconsumed, hproduced⟩ :=
    passOtherChecks_writes h
  have posted := (postLegs_booked hconsumed).trans (postLegs_booked hproduced)
  refine ⟨mapM_ne_nil hinputs ?_, mapM_ne_nil houtputs ?_, posted.edges, ?_, row, own,
    posted.transformations⟩
  · intro none
    have := payload.inputs_bounds.1
    simp [none] at this
  · intro none
    have := payload.outputs_bounds.1
    simp [none] at this
  · simpa [Table.any] using fresh

theorem passOtherChecks_spared [Arithmetic]
    (h : passOtherChecks env tables actor payload = .ok (inputs, outputs, produced)) {lotId : Nat}
    (held : env.openHold lotId ≠ none) : SameStock lotId tables produced := by
  obtain ⟨row, consumed, -, -, -, -, hconsumed, hproduced⟩ := passOtherChecks_writes h
  have posted := (postLegs_booked hconsumed).trans (postLegs_booked hproduced)
  have started : SameStock lotId tables { tables with
      transformations := tables.transformations.insert row } := ⟨.refl _, .refl _⟩
  exact started.trans (posted.spared lotId held)

theorem recordTransformation_eq_ok [Arithmetic]
    (h : recordTransformation env db actor payload = .ok (response, db')) :
    db' = db ∨ ∃ inputs outputs produced edges,
      passOtherChecks env db.tables actor payload = .ok (inputs, outputs, produced) ∧
        linkLegs env payload db.tables inputs outputs = .ok edges ∧
        db'.tables = { produced with genealogyEdges := edges } := by
  rcases replayed_eq_ok h with ⟨-, same⟩ | ⟨-, h⟩
  · exact .inl same
  obtain ⟨outcome, hbody, hdb⟩ := stocked_tables h
  obtain ⟨u, htask, hbody⟩ := of_bind hbody
  obtain ⟨inputs, hinputs, hbody⟩ := of_bind hbody
  obtain ⟨outputs, houtputs, hbody⟩ := of_bind hbody
  obtain ⟨v, hvalid, hbody⟩ := of_bind hbody
  obtain ⟨w, hcycle, hbody⟩ := of_bind hbody
  obtain ⟨transformations, hinsert, hbody⟩ := of_bind hbody
  obtain ⟨consumed, hconsumed, hbody⟩ := of_bind hbody
  obtain ⟨produced, hproduced, hbody⟩ := of_bind hbody
  obtain ⟨edges, hedges, hbody⟩ := of_bind hbody
  cases hbody
  obtain ⟨x, hconserved, hdistinct⟩ := of_bind hvalid
  have passes : passOtherChecks env db.tables actor payload = .ok (inputs, outputs, produced) :=
    bind_eq_ok.mpr ⟨u, htask, bind_eq_ok.mpr ⟨_, hinputs, bind_eq_ok.mpr ⟨_, houtputs,
      bind_eq_ok.mpr ⟨x, hconserved, bind_eq_ok.mpr ⟨_, hinsert, bind_eq_ok.mpr ⟨_, hconsumed,
        bind_eq_ok.mpr ⟨_, hproduced, rfl⟩⟩⟩⟩⟩⟩⟩
  refine .inr ⟨inputs, outputs, produced, edges, passes, ?_, hdb.symm⟩
  rw [(passOtherChecks_passed passes).edges] at hedges
  exact bind_eq_ok.mpr ⟨v, hdistinct, bind_eq_ok.mpr ⟨w, hcycle, hedges⟩⟩

theorem formatTransformation_error {id : Nat} {fault : Fault}
    (h : formatTransformation tables id = .error fault) :
    fault =
      materialError 404 "TRANSFORMATION_NOT_FOUND" "material transformation was not found" := by
  rcases bind_eq_error.mp h with h | ⟨row, -, h⟩
  · cases found : tables.transformations.find? id with
    | none =>
      rw [found] at h
      exact (Except.error.inj h).symm
    | some row =>
      rw [found] at h
      cases h
  · cases h

theorem recordTransformation_link [Arithmetic]
    (passes : passOtherChecks env db.tables actor payload = .ok (inputs, outputs, produced)) :
    ∃ finish : Table GenealogyEdge → Except Fault (Json × StockStore),
      recordTransformation env db actor payload =
        (linkLegs env payload db.tables inputs outputs >>= finish) ∧
      ∀ edges, ¬ RefusedForGenealogy (finish edges) := by
  have passed := passOtherChecks_passed passes
  have absent : db.tables.transformations.first?
      (·.transformationId = payload.transformationId.value) = none := by
    rw [Table.first?_eq_none_iff]
    intro id row found
    simpa using passed.fresh row (Table.mem_rows.mpr ⟨id, found⟩)
  obtain ⟨u, htask, h⟩ := of_bind passes
  obtain ⟨inputs', hinputs, h⟩ := of_bind h
  obtain ⟨outputs', houtputs, h⟩ := of_bind h
  obtain ⟨v, hconserved, h⟩ := of_bind h
  obtain ⟨transformations, hinsert, h⟩ := of_bind h
  obtain ⟨consumed, hconsumed, h⟩ := of_bind h
  obtain ⟨produced', hproduced, h⟩ := of_bind h
  cases h
  refine ⟨?finish, ?same, ?other⟩
  case same =>
    simp only [recordTransformation, absent, Option.map_none, replayed, stocked, htask, hinputs,
      houtputs, validateTransformationSemantics, hconserved, hinsert, hconsumed, hproduced,
      ok_bind, bind_assoc, linkLegs, legPairs, passed.edges]
    rfl
  case other =>
    rintro edges ⟨error, h, code⟩
    rcases bind_eq_error.mp h with h | ⟨outcome, body, h⟩
    · cases h
    cases body
    rcases bind_eq_error.mp h with h | ⟨_, -, h⟩
    · cases check_eq_error h
    rcases bind_eq_error.mp h with h | ⟨response, -, h⟩
    · cases formatTransformation_error h
      exact absurd code (by decide)
    · cases h

theorem linkLegs_error {fault : Fault}
    (h : linkLegs env payload tables inputs outputs = .error fault) :
    ∃ error, fault = .materialFlow error ∧ error.code ∈ genealogyCodes := by
  rcases bind_eq_error.mp h with h | ⟨_, -, h⟩
  · obtain rfl := check_eq_error h
    exact ⟨_, rfl, by simp [genealogyCodes]⟩
  rcases bind_eq_error.mp h with h | ⟨_, -, h⟩
  · obtain ⟨pair, -, h⟩ := forM_error h
    obtain rfl := check_eq_error h
    exact ⟨_, rfl, by simp [genealogyCodes]⟩
  · obtain rfl := insertEdges_error h
    exact ⟨_, rfl, by decide⟩

theorem refused_iff_unlinked
    (passes : passOtherChecks env db.tables actor payload = .ok (inputs, outputs, produced)) :
    RefusedForGenealogy (recordTransformation env db actor payload) ↔
      ¬ ∃ edges, linkLegs env payload db.tables inputs outputs = .ok edges := by
  obtain ⟨finish, same, other⟩ := recordTransformation_link passes
  rw [same]
  cases linked : linkLegs env payload db.tables inputs outputs with
  | ok edges => simpa [ok_bind] using other edges
  | error fault =>
    obtain ⟨error, rfl, code⟩ := linkLegs_error linked
    simp only [reduceCtorEq, exists_false, not_false_eq_true, iff_true]
    exact ⟨error, rfl, code⟩

end MiniOgas
