import MiniOgas.ToolGate

namespace MiniOgas

open Relational Serial

def intervalLength (intervalHours : Nat) : Int := intervalHours * hour

theorem intervalLength_pos {intervalHours : Nat} (hourly : 1 ≤ intervalHours) :
    0 < intervalLength intervalHours := by
  unfold intervalLength hour
  omega

theorem nextDue_of_gt {due now : Int} {intervalHours : Nat} (later : now < due) :
    nextDue due now intervalHours = due := by
  rw [nextDue, dif_neg]
  omega

theorem nextDue_least (due now : Int) {intervalHours : Nat} (hourly : 1 ≤ intervalHours)
    (passed : due ≤ now) :
    ∃ k : Nat, 1 ≤ k ∧ nextDue due now intervalHours = due + k * intervalLength intervalHours ∧
      now < due + k * intervalLength intervalHours ∧
      ∀ j : Nat, now < due + j * intervalLength intervalHours → k ≤ j := by
  fun_induction nextDue due now intervalHours with
  | case1 due _ ih =>
    rcases Int.lt_or_le now (due + intervalLength intervalHours) with later | again
    · refine ⟨1, le_refl 1, ?_, by simpa using later, fun j above => ?_⟩
      · exact (nextDue_of_gt later).trans (by simp [intervalLength])
      · by_contra none
        obtain rfl : j = 0 := by omega
        omega
    · obtain ⟨k, -, reached, after, least⟩ := ih again
      refine ⟨k + 1, Nat.le_add_left 1 k, ?_, ?_, fun j above => ?_⟩
      · rw [reached, Nat.cast_succ, Int.add_mul, Int.one_mul]
        simp only [intervalLength]
        omega
      · rw [Nat.cast_succ, Int.add_mul, Int.one_mul]
        simp only [intervalLength] at after ⊢
        omega
      · cases j with
        | zero => simp at above; omega
        | succ j =>
          refine Nat.succ_le_succ (least j ?_)
          rw [Nat.cast_succ, Int.add_mul, Int.one_mul] at above
          simp only [intervalLength] at above ⊢
          omega
  | case2 due stop => omega

/-- The operation generates work for the plan, if it succeeds. -/
def generatesFor (planId : Nat) (tables : MaintenanceTables) : MaintenanceOperation → Bool
  | .generatePreventiveWork code _ => (requirePlan tables code).toOption.any (·.1 = planId)
  | _ => false

def generates (planId : Nat) (plant : PlantTables) (call : PlantCall) : Bool :=
  match call.operation with
  | .maintenance operation =>
    generatesFor planId plant.maintenance operation && (plantAuthority.attempt call plant).isOk
  | .execution _ => false

/-- When the calls of a run generate work for the plan. -/
def generatedAt (planId : Nat) : PlantTables → List PlantCall → List Timestamp
  | _, [] => []
  | plant, call :: calls =>
    let rest := generatedAt planId (plantAuthority.serve plant call) calls
    if generates planId plant call then call.now :: rest else rest

variable {env : MaintenanceEnv} {db db' : MaintenanceStore} {actor : String} {response : Json}
  {operation : MaintenanceOperation} {plant plant' : PlantTables} {planId : Nat}
  {plan : PreventivePlan} {now : Timestamp}

/-- What a call does to a plan; it generates work for it, or not. -/
structure PlanStep (generated : Bool) (now : Timestamp) (plan plan' : PreventivePlan) : Prop where
  interval : plan'.intervalHours = plan.intervalHours
  kept : generated = false → plan'.nextDueAt = plan.nextDueAt
  moved : generated = true → plan.nextDueAt ≤ now ∧
    plan'.nextDueAt = nextDue plan.nextDueAt now plan.intervalHours

theorem planStep_refl : PlanStep false now plan plan :=
  ⟨rfl, fun _ => rfl, nofun⟩

theorem createPreventivePlan_kept {payload : PreventivePlanIn}
    (found : db.tables.plans.find? planId = some plan)
    (h : createPreventivePlan env db actor payload = .ok (response, db')) :
    db'.tables.plans.find? planId = some plan := by
  obtain ⟨outcome, h, htables⟩ := maintained_tables h
  rw [← htables]
  obtain ⟨_, -, h⟩ := of_bind h
  obtain ⟨_, -, h⟩ := of_bind h
  obtain ⟨plans, inserted, h⟩ := of_bind h
  cases h
  obtain ⟨-, rfl⟩ := insertMaintenance_eq_ok.mp inserted
  exact Table.find?_insert_of_find? _ found

theorem effectivePreventivePlan_kept {code : String} {payload : MaintenanceActionIn}
    (found : db.tables.plans.find? planId = some plan)
    (h : effectivePreventivePlan env db actor code payload = .ok (response, db')) :
    ∃ plan', db'.tables.plans.find? planId = some plan' ∧
      plan'.intervalHours = plan.intervalHours ∧ plan'.nextDueAt = plan.nextDueAt := by
  obtain ⟨outcome, h, htables⟩ := maintained_tables h
  rw [← htables]
  obtain ⟨⟨id, row⟩, -, h⟩ := of_bind h
  replace h := of_then h
  cases h
  refine ⟨_, (Table.find?_updateAt _ _ _ _ _).trans (congrArg (Option.map _) found), ?_⟩
  dsimp only
  split <;> exact ⟨rfl, rfl⟩

theorem generatePreventiveWork_planStep {code : String} {payload : PreventiveGenerateIn}
    (found : db.tables.plans.find? planId = some plan)
    (h : generatePreventiveWork env db actor code payload = .ok (response, db')) :
    ∃ plan', db'.tables.plans.find? planId = some plan' ∧
      PlanStep (generatesFor planId db.tables (.generatePreventiveWork code payload)) env.now
        plan plan' := by
  obtain ⟨outcome, h, htables⟩ := maintained_tables h
  rw [← htables]
  obtain ⟨⟨id, row⟩, planned, h⟩ := of_bind h
  replace h := of_then h
  obtain ⟨_, due, h⟩ := of_bind h
  obtain ⟨_, -, h⟩ := of_bind h
  obtain ⟨_, -, h⟩ := of_bind h
  obtain ⟨_, -, h⟩ := of_bind h
  obtain ⟨_, -, h⟩ := of_bind h
  cases h
  have stored := (Table.first?_spec (orFault_eq_ok.mp planned)).1
  rw [generatesFor, planned]
  refine ⟨_, (Table.find?_updateAt _ _ _ _ _).trans (congrArg (Option.map _) found), ?_⟩
  dsimp only
  by_cases own : id = planId
  · cases own
    cases stored.symm.trans found
    rw [if_pos ⟨rfl, rfl⟩]
    exact ⟨rfl, fun other => by simp [Except.toOption] at other, fun _ => ⟨check_eq_ok.mp due, rfl⟩⟩
  · rw [if_neg fun same => own same.1.symm]
    simpa [Except.toOption, own] using planStep_refl

theorem maintenance_planStep (found : db.tables.plans.find? planId = some plan)
    (h : operation.perform env actor db = .ok (response, db')) :
    ∃ plan', db'.tables.plans.find? planId = some plan' ∧
      PlanStep (generatesFor planId db.tables operation) env.now plan plan' := by
  cases operation with
  | createPreventivePlan => exact ⟨plan, createPreventivePlan_kept found h, planStep_refl⟩
  | effectivePreventivePlan =>
    obtain ⟨plan', found', interval, due⟩ := effectivePreventivePlan_kept found h
    exact ⟨plan', found', interval, fun _ => due, nofun⟩
  | generatePreventiveWork => exact generatePreventiveWork_planStep found h
  | _ =>
    simp only [MaintenanceOperation.perform, createAsset, createCode, createChecklist,
      transitionChecklist, createRequest, createOrder, approveOrder, startOrder,
      recordCheckResult, completeWork, verifyOrder, createTool, assignTool, recordToolLife,
      recordCalibration, recordSpareUse] at h
    obtain ⟨outcome, h, htables⟩ := maintained_tables h
    rw [← htables]
    repeat obtain ⟨_, -, h⟩ := of_bind h
    cases h
    exact ⟨plan, found, planStep_refl⟩

theorem plant_planStep (found : plant.maintenance.plans.find? planId = some plan)
    (call : PlantCall) :
    ∃ plan', (plantAuthority.serve plant call).maintenance.plans.find? planId = some plan' ∧
      PlanStep (generates planId plant call) call.now plan plan' := by
  unfold generates
  cases attempt : plantAuthority.attempt call plant with
  | error fault =>
    refine ⟨plan, by rw [Authority.serve, attempt]; exact found, ?_⟩
    cases call.operation <;> simpa [Except.isOk, Except.toBool] using planStep_refl
  | ok result =>
    obtain ⟨reply, plant'⟩ := result
    rw [Authority.serve_of_ok attempt]
    rcases plant_cases attempt with ⟨_, called, -, same⟩ | ⟨_, _, called, performed, rfl⟩
    · rw [called, same]
      exact ⟨plan, found, planStep_refl⟩
    · rw [called]
      obtain ⟨plan', found', step⟩ := maintenance_planStep found performed
      refine ⟨plan', found', ?_⟩
      change PlanStep (_ && true) call.now plan plan'
      rw [Bool.and_true]
      exact step

theorem window_lt {length start next later : Int} (positive : 0 < length) (bound : length ∣ next)
    (before : start < next) (after : next ≤ later) : start / length < later / length := by
  obtain ⟨m, rfl⟩ := bound
  rw [Int.mul_comm] at before after
  exact Int.lt_of_lt_of_le (Int.ediv_lt_of_lt_mul positive before)
    (Int.le_ediv_of_mul_le positive after)

/-- The generations of a run come after the due time, each in a window of its own, and the due
time stays congruent to the first one. -/
theorem generatedAt_windows {first : Int} (found : plant.maintenance.plans.find? planId = some plan)
    (hourly : 1 ≤ plan.intervalHours)
    (congruent : intervalLength plan.intervalHours ∣ plan.nextDueAt - first)
    (calls : List PlantCall) :
    (∀ now ∈ generatedAt planId plant calls, plan.nextDueAt ≤ now) ∧
      (generatedAt planId plant calls).Pairwise (fun now later =>
        (now - first) / intervalLength plan.intervalHours <
          (later - first) / intervalLength plan.intervalHours) ∧
      ∃ plan', (plantAuthority.run plant calls).maintenance.plans.find? planId = some plan' ∧
        plan'.intervalHours = plan.intervalHours ∧
        intervalLength plan.intervalHours ∣ plan'.nextDueAt - first := by
  induction calls generalizing plant plan with
  | nil => exact ⟨by simp [generatedAt], by simp [generatedAt], plan, found, rfl, congruent⟩
  | cons call calls ih =>
    obtain ⟨next, found', step⟩ := plant_planStep found call
    unfold generatedAt
    cases generated : generates planId plant call with
    | false =>
      have due := step.kept generated
      have interval := step.interval
      have rest := ih found' (interval ▸ hourly) (by rw [interval, due]; exact congruent)
      rw [interval, due] at rest
      exact rest
    | true =>
      obtain ⟨passed, due⟩ := step.moved generated
      obtain ⟨k, -, reached, after, -⟩ := nextDue_least plan.nextDueAt call.now hourly passed
      have congruent' : intervalLength plan.intervalHours ∣ next.nextDueAt - first := by
        rw [due, reached, add_sub_right_comm]
        exact Int.dvd_add congruent (Int.dvd_mul_left _ _)
      have interval := step.interval
      have later : call.now < next.nextDueAt := by rw [due, reached]; exact after
      obtain ⟨late, windows, last⟩ := ih found' (interval ▸ hourly) (interval ▸ congruent')
      rw [interval] at windows last
      refine ⟨?_, ?_, last⟩
      · rw [if_pos rfl, List.forall_mem_cons]
        exact ⟨passed, fun now member => (passed.trans later.le).trans (late now member)⟩
      · rw [if_pos rfl, List.pairwise_cons]
        exact ⟨fun now member => window_lt (intervalLength_pos hourly) congruent'
          (Int.sub_lt_sub_right later first) (Int.sub_le_sub_right (late now member) first),
            windows⟩

/-- The schedule of a plan never drifts: the loop stops at the first due time after now, and in
every run at most one order is generated for each window between the due times. -/
theorem preventive_schedule_kept (found : plant.maintenance.plans.find? planId = some plan)
    (hourly : 1 ≤ plan.intervalHours) :
    (∀ due now : Int, due ≤ now → ∃ k : Nat, 1 ≤ k ∧
      nextDue due now plan.intervalHours = due + k * intervalLength plan.intervalHours ∧
      now < due + k * intervalLength plan.intervalHours ∧
      ∀ j : Nat, now < due + j * intervalLength plan.intervalHours → k ≤ j) ∧
    ∀ calls : List PlantCall,
      ((generatedAt planId plant calls).map fun now =>
        (now - plan.nextDueAt) / intervalLength plan.intervalHours).Nodup ∧
      ∃ plan', (plantAuthority.run plant calls).maintenance.plans.find? planId = some plan' ∧
        plan'.intervalHours = plan.intervalHours ∧
        intervalLength plan.intervalHours ∣ plan'.nextDueAt - plan.nextDueAt := by
  refine ⟨fun due now passed => nextDue_least due now hourly passed, fun calls => ?_⟩
  obtain ⟨-, windows, last⟩ := generatedAt_windows found hourly
    (by rw [Int.sub_self]; exact Int.dvd_zero _) calls
  exact ⟨List.pairwise_map.mpr (windows.imp fun before => Int.ne_of_lt before), last⟩

def samplePlan : PreventivePlan where
  planCode := "PM-1"
  assetId := 1
  checklistId := 1
  intervalHours := 24
  nextDueAt := 0
  productionImpact := .none
  status := .effective
  createdBy := "planner"
  createdAt := 0
  effectiveBy := some "planner"
  effectivityEvidenceReference := some "E-1"
  effectiveAt := some 0
  lastGeneratedAt := none

theorem daily_bounds : 1 ≤ 24 ∧ 24 ≤ 87600 := by decide

def samplePlanned : PlantTables :=
  plantAuthority.run .empty (sampleMaintenance.take 4 ++
    [MaintenanceOperation.createPreventivePlan ⟨sampleCode "PM-1", sampleCode "AS-1",
        sampleCode "CL-1", 1, 24, 0, .none, firstRevision_pos, daily_bounds⟩,
      .effectivePreventivePlan "PM-1" sampleEvidence].map (sampleCall ∘ .maintenance))

def sampleGenerate (now : Timestamp) (requestCode orderCode : String) : PlantCall :=
  { sampleCall (.maintenance (.generatePreventiveWork "PM-1" ⟨sampleCode requestCode,
      sampleCode orderCode, sampleCode "P-1", 0, 1, firstPeriod_valid⟩)) with now := now }

theorem samplePlanned_windows :
    ((generatedAt 1 samplePlanned [sampleGenerate 0 "RQ-1" "MO-1", sampleGenerate 1 "RQ-2" "MO-2",
        sampleGenerate (50 * hour) "RQ-3" "MO-3"]).map fun now =>
      (now - samplePlan.nextDueAt) / intervalLength samplePlan.intervalHours).Nodup :=
  ((preventive_schedule_kept
    (show samplePlanned.maintenance.plans.find? 1 = some samplePlan by rfl) (by decide)).2 _).1

end MiniOgas
