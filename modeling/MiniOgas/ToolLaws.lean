import MiniOgas.ToolGate

namespace MiniOgas

open Relational Serial

variable {payload : ToolIn} {since now : Timestamp} {tables tables' : MaintenanceTables}
  {toolId taskId : Nat} {tool : MaintenanceTool}
  {plant plant' : PlantTables} {call : PlantCall} {response : Json}

theorem eventsKnown_step (effect : ToolEffect now tables tables')
    (known : EventsKnown tables) : EventsKnown tables' := by
  cases effect with
  | unmoved tools lifeEvents calibrations =>
    refine ⟨?_, ?_⟩
    · rw [tools, lifeEvents]
      exact known.lifeEvents
    · rw [tools, calibrations]
      exact known.calibrations
  | registered registers =>
    refine ⟨fun id event found => ?_, fun id event found => ?_⟩
    · rw [registers.lifeEvents] at found
      rw [registers.tools, Table.nextId_insert]
      exact Nat.lt_succ_of_lt (known.lifeEvents id event found)
    · rw [registers.calibrations] at found
      rw [registers.tools, Table.nextId_insert]
      exact Nat.lt_succ_of_lt (known.calibrations id event found)
  | @used other event _ hold tools lifeEvents calibrations =>
    refine ⟨fun id row found => ?_, fun id row found => ?_⟩
    · rw [lifeEvents, Table.find?_insert] at found
      rw [tools, Table.nextId_set]
      split at found
      next =>
        cases found
        exact Table.lt_nextId_of_find? hold
      next => exact known.lifeEvents id row found
    · rw [calibrations] at found
      rw [tools, Table.nextId_set]
      exact known.calibrations id row found
  | @calibrated other event hold tools lifeEvents calibrations =>
    refine ⟨fun id row found => ?_, fun id row found => ?_⟩
    · rw [lifeEvents] at found
      rw [tools, Table.nextId_set]
      exact known.lifeEvents id row found
    · rw [calibrations, Table.find?_insert] at found
      rw [tools, Table.nextId_set]
      split at found
      next =>
        cases found
        exact Table.lt_nextId_of_find? hold
      next => exact known.calibrations id row found

theorem eventsKnown_empty : EventsKnown .empty := by
  refine ⟨fun id event found => ?_, fun id event found => ?_⟩ <;>
    simp [MaintenanceTables.empty] at found

theorem eventsKnown_run (calls : List PlantCall) :
    EventsKnown (plantAuthority.run .empty calls).maintenance := by
  refine Authority.invariant (I := fun plant : PlantTables => EventsKnown plant.maintenance) ?_
    calls eventsKnown_empty
  intro plant call response plant' known h
  rcases plant_toolEffect h with same | effect
  · rw [same]
    exact known
  · exact eventsKnown_step effect known

theorem usage_eq_nil (known : EventsKnown tables) (fresh : tables.tools.nextId ≤ toolId) :
    tables.usage toolId = [] := by
  rw [MaintenanceTables.usage, List.map_eq_nil_iff, List.filter_eq_nil_iff]
  intro event member own
  obtain ⟨id, found⟩ := Table.mem_rows.mp member
  have := known.lifeEvents id event found
  have := of_decide_eq_true own
  omega

theorem lastCalibration_eq_none (known : EventsKnown tables)
    (fresh : tables.tools.nextId ≤ toolId) : tables.lastCalibration toolId = none := by
  refine Option.map_eq_none_iff.mpr (Table.last?_eq_none_iff.mpr fun id event found => ?_)
  have := known.calibrations id event found
  exact decide_eq_false (by omega)

theorem toolSound_registered (known : EventsKnown tables)
    (registers : ToolRegistered payload since tables tables' tool) :
    ToolSound payload since tables' tables.tools.nextId tool := by
  have found : tables'.tools.find? tables.tools.nextId = some tool := by
    rw [registers.tools, Table.find?_insert_self]
  have usage : tables'.usage tables.tools.nextId = [] := by
    rw [MaintenanceTables.usage, registers.lifeEvents]
    exact usage_eq_nil known (Nat.le_refl _)
  have last : tables'.lastCalibration tables.tools.nextId = none := by
    rw [MaintenanceTables.lastCalibration, registers.calibrations]
    exact lastCalibration_eq_none known (Nat.le_refl _)
  refine ⟨found, registers.limit, by rw [usage, registers.used]; rfl, registers.required, ?_⟩
  have spent : LifeSpent payload tables' tables.tools.nextId ↔
      payload.lifeLimit ≤ payload.lifeUsed := by
    rw [LifeSpent, usage]
    rfl
  rw [registers.status, ToolIn.status]
  split
  next reached => exact spent.mpr reached
  next within =>
    split
    next overdue =>
      rw [Bool.and_eq_true, Option.any_eq_true] at overdue
      obtain ⟨required, due, dueAt, passed⟩ := overdue
      exact .inr ⟨tool, due, found, registers.required.trans required, registers.due.trans dueAt,
        of_decide_eq_true passed⟩
    next => exact ⟨fun reached => within (spent.mp reached), by simp [CalibrationFailed, last]⟩

theorem keeps_tool {I : MaintenanceTables → MaintenanceTool → Prop}
    (step : ∀ {now tables tables' tool}, ToolEffect now tables tables' → I tables tool →
      ∃ tool', I tables' tool') (sound : I plant.maintenance tool) (events : List PlantCall) :
    ∃ tool', I (plantAuthority.run plant events).maintenance tool' := by
  refine Authority.invariant (I := fun plant : PlantTables => ∃ tool, I plant.maintenance tool)
    ?_ events ⟨tool, sound⟩
  rintro plant call response plant' ⟨tool, sound⟩ h
  rcases plant_toolEffect h with same | effect
  · rw [same]
    exact ⟨tool, sound⟩
  · exact step effect sound

theorem toolSound_run (sound : ToolSound payload since plant.maintenance toolId tool)
    (events : List PlantCall) :
    ∃ tool',
      ToolSound payload since (plantAuthority.run plant events).maintenance toolId tool' :=
  keeps_tool toolSound_step sound events

theorem lifeSpent_step (effect : ToolEffect now tables tables')
    (spent : LifeSpent payload tables toolId) : LifeSpent payload tables' toolId := by
  have unmoved (lifeEvents : tables'.toolLifeEvents = tables.toolLifeEvents) :
      LifeSpent payload tables' toolId := by
    rw [LifeSpent, MaintenanceTables.usage, lifeEvents]
    exact spent
  cases effect with
  | unmoved _ lifeEvents => exact unmoved lifeEvents
  | registered registers => exact unmoved registers.lifeEvents
  | @used _ event positive _ _ lifeEvents =>
    rw [LifeSpent, usage_insert event lifeEvents]
    split
    next =>
      rw [accumulated_append]
      exact payload.lifeLimit_le positive.le spent
    next =>
      rw [List.append_nil]
      exact spent
  | calibrated _ _ lifeEvents => exact unmoved lifeEvents

theorem lifeSpent_run (spent : LifeSpent payload plant.maintenance toolId)
    (events : List PlantCall) :
    LifeSpent payload (plantAuthority.run plant events).maintenance toolId := by
  refine Authority.invariant (I := fun plant : PlantTables =>
    LifeSpent payload plant.maintenance toolId) ?_ events spent
  intro plant call response plant' spent h
  rcases plant_toolEffect h with same | effect
  · rw [same]
    exact spent
  · exact lifeSpent_step effect spent

theorem ToolSound.blocks_of_spent (sound : ToolSound payload since tables toolId tool)
    (spent : LifeSpent payload tables toolId) (now : Timestamp) :
    tool.overLife = true ∨ tool.calibrationBlocks now = true := by
  have status := sound.status
  cases h : tool.status with
  | active =>
    rw [h] at status
    exact absurd spent status.1
  | overLife => exact .inl (decide_eq_true h)
  | calibrationInvalid => exact .inr (by simp [MaintenanceTool.calibrationBlocks, h])
  | retired =>
    rw [h] at status
    exact status.elim

/-- The gate of a task's start is exact on a tool that was registered in a run, after any
further calls and from its registration on, and a spent tool stays blocked. -/
theorem tool_blocks_iff (calls : List PlantCall) (creation : PlantCall) (payload : ToolIn)
    (response : Json) (registered : PlantTables)
    (called : creation.operation = .maintenance (.createTool payload))
    (created : plantAuthority.attempt creation (plantAuthority.run .empty calls) =
      .ok (response, registered)) (events : List PlantCall) (toolId : Nat)
    (identifier : toolId = (plantAuthority.run .empty calls).maintenance.tools.nextId)
    (plant : PlantTables) (reached : plant = plantAuthority.run registered events) :
    (∀ taskId now, creation.now ≤ now → plant.maintenance.AssignedTool toolId taskId →
      (plant.maintenance.BlocksStart toolId taskId now ↔
        LifeSpent payload plant.maintenance toolId ∨
          CalibrationFailed plant.maintenance toolId ∨
          CalibrationDue plant.maintenance toolId now)) ∧
    (∀ (call : PlantCall) taskId,
      (requireMaintenanceReadiness (call.executionEnv plant) plant.execution.facts taskId =
          .ok () ↔
        maintenanceBlockers (call.executionEnv plant) plant.execution.facts taskId = [] ∧
          ∀ id, ¬ plant.maintenance.BlocksStart id taskId call.now) ∧
      ∀ old new : OperationTask, new.status = .running ∧ old.status ≠ .running →
        (guardOperationTaskMaintenance (call.executionEnv plant) plant.execution.facts taskId old
            new = .ok () ↔
          maintenanceBlockers (call.executionEnv plant) plant.execution.facts taskId = [] ∧
            ∀ id, ¬ plant.maintenance.BlocksStart id taskId call.now)) ∧
    (LifeSpent payload plant.maintenance toolId → ∀ later taskId now,
      (plantAuthority.run plant later).maintenance.AssignedTool toolId taskId →
      (plantAuthority.run plant later).maintenance.BlocksStart toolId taskId now) := by
  obtain ⟨tool, registers⟩ := plant_toolRegistered called created
  have initial := toolSound_registered (eventsKnown_run calls) registers
  rw [← identifier] at initial
  obtain ⟨current, sound⟩ := toolSound_run initial events
  rw [← reached] at sound
  refine ⟨fun taskId now later assigned => ?_, fun call taskId => ?_, ?_⟩
  · rw [← sound.blocks_iff later]
    simp [MaintenanceTables.BlocksStart, sound.found, assigned]
  · exact ⟨requireMaintenanceReadiness_eq_ok_iff,
      fun old new starts => guardOperationTaskMaintenance_eq_ok_iff starts⟩
  · intro spent later taskId now assigned
    obtain ⟨last, sound⟩ := toolSound_run sound later
    exact ⟨last, sound.found, assigned, sound.blocks_of_spent (lifeSpent_run spent later) now⟩

theorem sampleLimit_float : toDouble ((0 : Nat) + 1) = (0 : Nat) + 1 := by
  decide +kernel

def sampleTool : MaintenanceOperation :=
  .createTool ⟨sampleCode "TL-1", sampleCode "AS-1",
    ⟨"drill", by decide +kernel, by decide +kernel⟩,
    ⟨"cutter", by decide +kernel, by decide +kernel⟩, (0 : Nat) + 1, 0,
    ⟨"cycles", by decide +kernel, by decide +kernel⟩, true, some 5, quantity_pos 0,
    sampleLimit_float, le_refl 0, fun _ => Option.some_ne_none 5⟩

def sampleUnequipped : PlantTables :=
  plantAuthority.run .empty (sampleSetup ++ sampleMaintenance.take 1)

/-- The tool is registered. -/
def sampleRegistered : PlantTables :=
  plantAuthority.serve sampleUnequipped (sampleCall (.maintenance sampleTool))

theorem sampleRegistered_created : ∃ response, plantAuthority.attempt
    (sampleCall (.maintenance sampleTool)) sampleUnequipped = .ok (response, sampleRegistered) := by
  have succeeds : (plantAuthority.attempt (sampleCall (.maintenance sampleTool))
      sampleUnequipped).isOk = true := by
    decide +kernel
  obtain ⟨⟨response, registered⟩, created⟩ := exists_ok succeeds
  rw [sampleRegistered, Authority.serve_of_ok created]
  exact ⟨response, created⟩

def sampleUse : List PlantCall :=
  [MaintenanceOperation.assignTool "TL-1" ⟨1, sampleReference, le_refl 1⟩,
    .recordToolLife "TL-1" ⟨sampleCode "EV-1", (0 : Nat) + 1, none, 0, sampleReference,
      quantity_pos 0, taskId_none⟩,
    .recordCalibration "TL-1" ⟨sampleCode "CB-1", .pass, 0, 1, sampleCode "P-1", sampleReference,
      firstPeriod_valid⟩].map (sampleCall ∘ .maintenance)

/-- A tool that is used up blocks its task, although its last calibration passed. -/
theorem tool_blocks_iff_used_up :
    (plantAuthority.run sampleRegistered sampleUse).maintenance.BlocksStart 1 1 0 := by
  obtain ⟨response, created⟩ := sampleRegistered_created
  have gate := tool_blocks_iff (sampleSetup ++ sampleMaintenance.take 1)
    (sampleCall (.maintenance sampleTool)) _ response sampleRegistered rfl created sampleUse 1
    (by decide +kernel) _ rfl
  refine (gate.1 1 0 (le_refl _) ?_).mpr (.inl ?_)
  · unfold MaintenanceTables.AssignedTool
    decide +kernel
  · unfold LifeSpent
    decide +kernel

theorem tenth_pos : 0 < toDouble (1 / 10) := by
  decide +kernel

/-- Ten usages of a tenth. -/
def sampleWear : List PlantCall :=
  (.assignTool "TL-1" ⟨1, sampleReference, le_refl 1⟩ :: (List.range 10).map fun n =>
    MaintenanceOperation.recordToolLife "TL-1" ⟨sampleCode s!"EV-{n}", toDouble (1 / 10), none, 0,
      sampleReference, tenth_pos, taskId_none⟩).map (sampleCall ∘ .maintenance)

/-- The doubles of ten tenths add up to one, and their accumulated sum stays below it. -/
theorem tenths_within_limit :
    ¬ ∀ calls creation payload response registered, creation.operation =
        .maintenance (.createTool payload) →
      plantAuthority.attempt creation (plantAuthority.run .empty calls) =
        .ok (response, registered) → ∀ events taskId now, creation.now ≤ now →
      (plantAuthority.run registered events).maintenance.AssignedTool
        (plantAuthority.run .empty calls).maintenance.tools.nextId taskId →
      ((plantAuthority.run registered events).maintenance.BlocksStart
          (plantAuthority.run .empty calls).maintenance.tools.nextId taskId now ↔
        payload.lifeLimit ≤ payload.lifeUsed +
            ((plantAuthority.run registered events).maintenance.usage
              (plantAuthority.run .empty calls).maintenance.tools.nextId).sum ∨
          CalibrationFailed (plantAuthority.run registered events).maintenance
            (plantAuthority.run .empty calls).maintenance.tools.nextId ∨
          CalibrationDue (plantAuthority.run registered events).maintenance
            (plantAuthority.run .empty calls).maintenance.tools.nextId now) := by
  intro equivalent
  obtain ⟨response, created⟩ := sampleRegistered_created
  have gate := equivalent (sampleSetup ++ sampleMaintenance.take 1)
    (sampleCall (.maintenance sampleTool)) _ response sampleRegistered rfl created sampleWear 1 0
    (le_refl _)
  have first : (plantAuthority.run .empty
      (sampleSetup ++ sampleMaintenance.take 1)).maintenance.tools.nextId = 1 := by
    decide +kernel
  rw [first] at gate
  obtain ⟨tool, found, -, blocks⟩ := (gate (by
    unfold MaintenanceTables.AssignedTool
    decide +kernel)).mpr (.inl (by decide +kernel))
  have free : ((plantAuthority.run sampleRegistered sampleWear).maintenance.tools.find? 1).any
      (fun tool => tool.overLife || tool.calibrationBlocks 0) = false := by
    decide +kernel
  rw [found, Option.any_some, Bool.or_eq_false_iff] at free
  rw [free.1, free.2] at blocks
  exact Bool.false_ne_true (blocks.elim id id)

/-- A recorded calibration of the tool passed and is valid at the time. -/
def MaintenanceTables.ValidlyCalibrated (tables : MaintenanceTables) (toolId : Nat)
    (now : Timestamp) : Prop :=
  tables.calibrationEvents.any (fun event => event.toolId = toolId && event.result = .pass &&
    decide (event.validFrom ≤ now) && decide (now < event.validTo)) = true

/-- The time is before the first due time of a tool without a calibration, or a calibration
covers it. -/
def CalibrationCovers (payload : ToolIn) (tables : MaintenanceTables) (toolId : Nat)
    (now : Timestamp) : Prop :=
  (tables.lastCalibration toolId = none ∧ ∃ due ∈ payload.calibrationDueAt, now < due) ∨
    tables.ValidlyCalibrated toolId now

/-- What the last calibration has left in the tool. -/
structure DueSound (payload : ToolIn) (tables : MaintenanceTables) (toolId : Nat)
    (tool : MaintenanceTool) : Prop where
  found : tables.tools.find? toolId = some tool
  due : tool.calibrationDueAt =
    (tables.lastCalibration toolId).elim payload.calibrationDueAt (some ·.validTo)
  invalid : tool.status = .calibrationInvalid →
    CalibrationFailed tables toolId ∨ tables.lastCalibration toolId = none

variable {payload : ToolIn} {since now : Timestamp} {tables tables' : MaintenanceTables}
  {toolId taskId : Nat} {tool : MaintenanceTool} {event : CalibrationEvent}
  {plant : PlantTables} {call : PlantCall} {response : Json}

theorem validlyCalibrated_iff : tables.ValidlyCalibrated toolId now ↔
    ∃ id event, tables.calibrationEvents.find? id = some event ∧ event.toolId = toolId ∧
      event.result = .pass ∧ event.validFrom ≤ now ∧ now < event.validTo := by
  rw [MaintenanceTables.ValidlyCalibrated, Table.any_iff]
  simp [and_assoc]

theorem lastCalibration_recorded (last : tables.lastCalibration toolId = some event) :
    ∃ id, tables.calibrationEvents.find? id = some event ∧ event.toolId = toolId := by
  obtain ⟨⟨id, row⟩, found, rfl⟩ := Option.map_eq_some_iff.mp last
  obtain ⟨found, own⟩ := Table.last?_spec found
  exact ⟨id, found, of_decide_eq_true own⟩

theorem DueSound.congr (sound : DueSound payload tables toolId tool)
    (found : tables'.tools.find? toolId = some tool)
    (last : tables'.lastCalibration toolId = tables.lastCalibration toolId) :
    DueSound payload tables' toolId tool := by
  refine ⟨found, by rw [last]; exact sound.due, fun invalid => ?_⟩
  rw [CalibrationFailed, last]
  exact sound.invalid invalid

theorem DueSound.applyLife (sound : DueSound payload tables toolId tool) {usageDelta : Quantity}
    (found : tables'.tools.find? toolId = some (tool.applyLife usageDelta))
    (last : tables'.lastCalibration toolId = tables.lastCalibration toolId) :
    DueSound payload tables' toolId (tool.applyLife usageDelta) := by
  refine ⟨found, by rw [last]; exact sound.due, fun invalid => ?_⟩
  rw [CalibrationFailed, last]
  refine sound.invalid ?_
  unfold MaintenanceTool.applyLife at invalid
  split at invalid
  next => cases invalid
  next => exact invalid

theorem DueSound.applyCalibration
    (found : tables'.tools.find? toolId = some (tool.applyCalibration event.result event.validTo))
    (last : tables'.lastCalibration toolId = some event) :
    DueSound payload tables' toolId (tool.applyCalibration event.result event.validTo) := by
  refine ⟨found, by rw [last]; rfl, fun invalid => ?_⟩
  unfold MaintenanceTool.applyCalibration at invalid
  split at invalid
  next failed => exact .inl ⟨event, last, failed⟩
  next => split at invalid <;> cases invalid

theorem dueSound_registered (known : EventsKnown tables)
    (registers : ToolRegistered payload since tables tables' tool) :
    DueSound payload tables' tables.tools.nextId tool := by
  have last : tables'.lastCalibration tables.tools.nextId = none := by
    rw [MaintenanceTables.lastCalibration, registers.calibrations]
    exact lastCalibration_eq_none known (Nat.le_refl _)
  refine ⟨by rw [registers.tools, Table.find?_insert_self], ?_, fun _ => .inr last⟩
  rw [last, registers.due]
  rfl

theorem dueSound_step (effect : ToolEffect now tables tables')
    (sound : DueSound payload tables toolId tool) :
    ∃ tool', DueSound payload tables' toolId tool' := by
  have kept (calibrations : tables'.calibrationEvents = tables.calibrationEvents) :
      tables'.lastCalibration toolId = tables.lastCalibration toolId := by
    rw [MaintenanceTables.lastCalibration, calibrations]
    rfl
  cases effect with
  | unmoved tools _ calibrations =>
    exact ⟨tool, sound.congr (by rw [tools]; exact sound.found) (kept calibrations)⟩
  | registered registers =>
    refine ⟨tool, sound.congr ?_ (kept registers.calibrations)⟩
    rw [registers.tools, Table.find?_insert_of_find? _ sound.found]
  | @used other event positive found tools _ calibrations =>
    by_cases own : event.toolId = toolId
    · rw [own, sound.found] at found
      cases found
      have found : tables'.tools.find? toolId = some (tool.applyLife event.usageDelta) := by
        rw [tools, own, Table.find?_set_self _ sound.found]
      exact ⟨_, sound.applyLife found (kept calibrations)⟩
    · refine ⟨tool, sound.congr ?_ (kept calibrations)⟩
      rw [tools, Table.find?_set_ne _ (Ne.symm own), sound.found]
  | @calibrated other event found tools _ calibrations =>
    have last : tables'.lastCalibration toolId = _ := lastCalibration_insert event calibrations
    by_cases own : event.toolId = toolId
    · rw [own, sound.found] at found
      cases found
      have found : tables'.tools.find? toolId =
          some (tool.applyCalibration event.result event.validTo) := by
        rw [tools, own, Table.find?_set_self _ sound.found]
      exact ⟨_, .applyCalibration found (last.trans (if_pos own))⟩
    · refine ⟨tool, sound.congr ?_ (last.trans (if_neg own))⟩
      rw [tools, Table.find?_set_ne _ (Ne.symm own), sound.found]

theorem dueSound_run (sound : DueSound payload plant.maintenance toolId tool)
    (events : List PlantCall) :
    ∃ tool', DueSound payload (plantAuthority.run plant events).maintenance toolId tool' :=
  keeps_tool dueSound_step sound events

theorem DueSound.free_of_uncalibrated (sound : DueSound payload tables toolId tool)
    (required : tool.calibrationRequired = true) (calibrated : payload.calibrationDueAt ≠ none)
    (last : tables.lastCalibration toolId = none) (free : tool.calibrationBlocks now = false) :
    CalibrationCovers payload tables toolId now := by
  have due := sound.due
  rw [last, Option.elim_none] at due
  obtain ⟨time, first⟩ := Option.ne_none_iff_exists'.mp calibrated
  simp only [MaintenanceTool.calibrationBlocks, due, first, required, Bool.true_and,
    Option.any_some, Bool.or_eq_false_iff, decide_eq_false_iff_not, Int.not_le] at free
  exact .inl ⟨last, time, first, free.2⟩

theorem DueSound.blocks_iff (due : DueSound payload tables toolId tool)
    (sound : ToolSound payload since tables toolId tool)
    (required : tool.calibrationRequired = true)
    (last : tables.lastCalibration toolId = some event) :
    (tool.overLife = true ∨ tool.calibrationBlocks now = true) ↔
      LifeSpent payload tables toolId ∨ event.result = .fail ∨ event.validTo ≤ now := by
  have dueAt := due.due
  rw [last, Option.elim_some] at dueAt
  have failed : CalibrationFailed tables toolId ↔ event.result = .fail := by
    simp [CalibrationFailed, last]
  have status := sound.status
  simp only [MaintenanceTool.overLife, MaintenanceTool.calibrationBlocks, dueAt, required,
    Bool.true_and, Option.any_some, Bool.or_eq_true, decide_eq_true_eq]
  cases h : tool.status with
  | active =>
    rw [h] at status
    simp [status.1, failed.not.mp status.2]
  | overLife =>
    rw [h] at status
    have spent : LifeSpent payload tables toolId := status
    simp [spent]
  | calibrationInvalid =>
    have invalid := due.invalid h
    rw [last, failed] at invalid
    simp [invalid.resolve_right (Option.some_ne_none _)]
  | retired =>
    rw [h] at status
    exact status.elim

/-- The gate keeps the window of the calibrations iff the one that it reads is not dated ahead. -/
theorem calibration_window_iff (calls : List PlantCall) (creation : PlantCall) (payload : ToolIn)
    (response : Json) (registered : PlantTables)
    (called : creation.operation = .maintenance (.createTool payload))
    (created : plantAuthority.attempt creation (plantAuthority.run .empty calls) =
      .ok (response, registered)) (required : payload.calibrationRequired = true)
    (events : List PlantCall) (toolId : Nat)
    (identifier : toolId = (plantAuthority.run .empty calls).maintenance.tools.nextId)
    (plant : PlantTables) (reached : plant = plantAuthority.run registered events)
    (call : PlantCall) (taskId : Nat) (assigned : plant.maintenance.AssignedTool toolId taskId)
    (old new : OperationTask) (starts : new.status = .running ∧ old.status ≠ .running) :
    (guardOperationTaskMaintenance (call.executionEnv plant) plant.execution.facts taskId old
          new = .ok () →
        CalibrationCovers payload plant.maintenance toolId call.now) ↔
      (maintenanceBlockers (call.executionEnv plant) plant.execution.facts taskId = [] →
        (∀ id, id ≠ toolId → ¬ plant.maintenance.BlocksStart id taskId call.now) →
        ¬ LifeSpent payload plant.maintenance toolId →
        ∀ event, plant.maintenance.lastCalibration toolId = some event →
          event.result = .pass → call.now < event.validTo →
          event.validFrom ≤ call.now ∨
            plant.maintenance.ValidlyCalibrated toolId call.now) := by
  obtain ⟨tool, registers⟩ := plant_toolRegistered called created
  have known := eventsKnown_run calls
  have initial := toolSound_registered known registers
  have initialDue := dueSound_registered known registers
  rw [← identifier] at initial initialDue
  obtain ⟨current, sound⟩ := toolSound_run initial events
  obtain ⟨other, due⟩ := dueSound_run initialDue events
  rw [← reached] at sound due
  obtain rfl : current = other := Option.some.inj (sound.found.symm.trans due.found)
  have needed := sound.required.trans required
  have blocks : plant.maintenance.BlocksStart toolId taskId call.now ↔
      current.overLife = true ∨ current.calibrationBlocks call.now = true := by
    simp [MaintenanceTables.BlocksStart, sound.found, assigned]
  have gate : guardOperationTaskMaintenance (call.executionEnv plant) plant.execution.facts taskId
      old new = .ok () ↔
        maintenanceBlockers (call.executionEnv plant) plant.execution.facts taskId = [] ∧
          ∀ id, ¬ plant.maintenance.BlocksStart id taskId call.now :=
    guardOperationTaskMaintenance_eq_ok_iff starts
  rw [gate]
  constructor
  · intro covers none others within event last passed before
    refine .inr ?_
    have free : ¬ plant.maintenance.BlocksStart toolId taskId call.now := by
      rw [blocks, due.blocks_iff sound needed last, passed]
      rintro (spent | failed | late)
      · exact within spent
      · cases failed
      · exact absurd before (Int.not_lt.mpr late)
    have unblocked (id : Nat) : ¬ plant.maintenance.BlocksStart id taskId call.now := by
      by_cases own : id = toolId
      · exact own ▸ free
      · exact others id own
    rcases covers ⟨none, unblocked⟩ with ⟨uncalibrated, -⟩ | valid
    · rw [last] at uncalibrated
      cases uncalibrated
    · exact valid
  · rintro covered ⟨none, others⟩
    have free := others toolId
    cases last : plant.maintenance.lastCalibration toolId with
    | none =>
      rw [blocks, not_or] at free
      exact due.free_of_uncalibrated needed (payload.calibrated required) last
        (Bool.eq_false_iff.mpr free.2)
    | some event =>
      rw [blocks, due.blocks_iff sound needed last, not_or, not_or, Int.not_le] at free
      obtain ⟨within, notFailed, before⟩ := free
      have passed : event.result = .pass := by
        cases h : event.result with
        | pass => rfl
        | fail => exact absurd h notFailed
      refine .inr ?_
      rcases covered none (fun id _ => others id) within event last passed before with begun | valid
      · obtain ⟨id, found, own⟩ := lastCalibration_recorded last
        exact validlyCalibrated_iff.mpr ⟨id, event, found, own, passed, begun, before⟩
      · exact valid

theorem laterPeriod_valid : (1 : Timestamp) < 2 := by decide

def sampleCalibrated (validFrom validTo : Timestamp) (period : validFrom < validTo) : PlantTables :=
  plantAuthority.run sampleRegistered
    ([MaintenanceOperation.assignTool "TL-1" ⟨1, sampleReference, le_refl 1⟩,
      .recordCalibration "TL-1" ⟨sampleCode "CB-1", .pass, validFrom, validTo, sampleCode "P-1",
        sampleReference, period⟩].map (sampleCall ∘ .maintenance))

/-- A calibration that has begun covers the start. -/
theorem calibration_window_iff_begun : ∃ payload old new, sampleTool = .createTool payload ∧
    (guardOperationTaskMaintenance
        (sampleStart.executionEnv (sampleCalibrated 0 1 firstPeriod_valid))
        (sampleCalibrated 0 1 firstPeriod_valid).execution.facts 1 old new = .ok () →
      CalibrationCovers payload (sampleCalibrated 0 1 firstPeriod_valid).maintenance 1
        sampleStart.now) := by
  obtain ⟨response, created⟩ := sampleRegistered_created
  have waiting : ((sampleCalibrated 0 1 firstPeriod_valid).execution.facts.tasks.find? 1).any
      (fun old => decide (old.status ≠ .running)) = true := by
    decide +kernel
  obtain ⟨old, -, waiting⟩ := (Option.any_eq_true _ _).mp waiting
  refine ⟨_, old, { old with status := .running }, rfl, ?_⟩
  refine (calibration_window_iff (sampleSetup ++ sampleMaintenance.take 1) _ _ response
    sampleRegistered rfl created rfl _ 1 (by decide +kernel) _ rfl sampleStart 1 ?_ _ _
    ⟨rfl, of_decide_eq_true waiting⟩).mpr fun _ _ _ event _ _ _ => .inr ?_
  · unfold MaintenanceTables.AssignedTool
    decide +kernel
  · unfold MaintenanceTables.ValidlyCalibrated
    decide +kernel

/-- A calibration that is dated ahead opens the gate before it is valid. -/
theorem calibration_ahead_opens : ∃ payload old new,
    sampleTool = .createTool payload ∧ new.status = .running ∧ old.status ≠ .running ∧
      guardOperationTaskMaintenance
        (sampleStart.executionEnv (sampleCalibrated 1 2 laterPeriod_valid))
        (sampleCalibrated 1 2 laterPeriod_valid).execution.facts 1 old new = .ok () ∧
      ¬ CalibrationCovers payload (sampleCalibrated 1 2 laterPeriod_valid).maintenance 1
        sampleStart.now := by
  have opens : ((sampleCalibrated 1 2 laterPeriod_valid).execution.facts.tasks.find? 1).any
      (fun old => decide (old.status ≠ .running) && (guardOperationTaskMaintenance
        (sampleStart.executionEnv (sampleCalibrated 1 2 laterPeriod_valid))
        (sampleCalibrated 1 2 laterPeriod_valid).execution.facts 1 old
        { old with status := .running }).isOk) = true := by
    decide +kernel
  obtain ⟨old, -, opens⟩ := (Option.any_eq_true _ _).mp opens
  rw [Bool.and_eq_true, decide_eq_true_eq] at opens
  obtain ⟨⟨⟩, passed⟩ := exists_ok opens.2
  refine ⟨_, old, _, rfl, rfl, opens.1, passed, ?_⟩
  unfold CalibrationCovers MaintenanceTables.ValidlyCalibrated
  have last : ((sampleCalibrated 1 2 laterPeriod_valid).maintenance.lastCalibration
      1).isSome = true := by
    decide +kernel
  rintro (⟨none, -⟩ | valid)
  · rw [none] at last
    cases last
  · revert valid
    decide +kernel

end MiniOgas
