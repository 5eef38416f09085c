import MiniOgas.MachineInterlock
import MiniOgas.RoundingLaws

namespace MiniOgas

open Relational Serial

/-- The recorded usage deltas of a tool, in the order of their events. -/
def MaintenanceTables.usage (tables : MaintenanceTables) (toolId : Nat) : List Quantity :=
  (tables.toolLifeEvents.rows.filter (·.toolId = toolId)).map (·.usageDelta)

/-- What the doubles `deltas`, added one by one, make of a life. -/
def accumulated (lifeUsed : Quantity) (deltas : List Quantity) : Quantity :=
  deltas.foldl (fun used delta => toDouble (used + delta)) lifeUsed

def MaintenanceTables.lastCalibration (tables : MaintenanceTables) (toolId : Nat) :
    Option CalibrationEvent :=
  (tables.calibrationEvents.last? (·.toolId = toolId)).map (·.2)

structure ToolRegistered (payload : ToolIn) (now : Timestamp) (tables tables' : MaintenanceTables)
    (tool : MaintenanceTool) : Prop where
  limit : tool.lifeLimit = payload.lifeLimit
  used : tool.lifeUsed = payload.lifeUsed
  required : tool.calibrationRequired = payload.calibrationRequired
  due : tool.calibrationDueAt = payload.calibrationDueAt
  status : tool.status = payload.status now
  tools : tables'.tools = tables.tools.insert tool
  lifeEvents : tables'.toolLifeEvents = tables.toolLifeEvents
  calibrations : tables'.calibrationEvents = tables.calibrationEvents

/-- What a successful call can do to the tools and to their events. -/
inductive ToolEffect (now : Timestamp) (tables tables' : MaintenanceTables) : Prop
  | unmoved (tools : tables'.tools = tables.tools)
      (lifeEvents : tables'.toolLifeEvents = tables.toolLifeEvents)
      (calibrations : tables'.calibrationEvents = tables.calibrationEvents)
  | registered {payload : ToolIn} {tool : MaintenanceTool}
      (registers : ToolRegistered payload now tables tables' tool)
  | used {tool : MaintenanceTool} {event : ToolLifeEvent} (positive : 0 < event.usageDelta)
      (found : tables.tools.find? event.toolId = some tool)
      (tools : tables'.tools = tables.tools.set event.toolId (tool.applyLife event.usageDelta))
      (lifeEvents : tables'.toolLifeEvents = tables.toolLifeEvents.insert event)
      (calibrations : tables'.calibrationEvents = tables.calibrationEvents)
  | calibrated {tool : MaintenanceTool} {event : CalibrationEvent}
      (found : tables.tools.find? event.toolId = some tool)
      (tools : tables'.tools =
        tables.tools.set event.toolId (tool.applyCalibration event.result event.validTo))
      (lifeEvents : tables'.toolLifeEvents = tables.toolLifeEvents)
      (calibrations : tables'.calibrationEvents = tables.calibrationEvents.insert event)

variable {env : MaintenanceEnv} {db db' : MaintenanceStore} {actor code : String} {response : Json}
  {operation : MaintenanceOperation} {plant plant' : PlantTables}

theorem createTool_registered {payload : ToolIn}
    (h : createTool env db actor payload = .ok (response, db')) :
    ∃ tool, ToolRegistered payload env.now db.tables db'.tables tool := by
  obtain ⟨outcome, h, htables⟩ := maintained_tables h
  rw [← htables]
  obtain ⟨⟨assetId, _⟩, -, h⟩ := of_bind h
  obtain ⟨tools, inserted, h⟩ := of_bind h
  cases h
  obtain ⟨-, rfl⟩ := insertMaintenance_eq_ok.mp inserted
  exact ⟨_, rfl, rfl, rfl, rfl, rfl, rfl, rfl, rfl⟩

theorem requireTool_ok {tables : MaintenanceTables} {toolId : Nat} {tool : MaintenanceTool}
    (h : requireTool tables code = .ok (toolId, tool)) : tables.tools.find? toolId = some tool :=
  (Table.first?_spec (orFault_eq_ok.mp h)).1

theorem recordToolLife_toolEffect {payload : ToolLifeEventIn}
    (h : recordToolLife env db actor code payload = .ok (response, db')) :
    ToolEffect env.now db.tables db'.tables := by
  refine maintained_outcome h fun outcome h => ?_
  obtain ⟨⟨toolId, tool⟩, found, h⟩ := of_bind h
  replace h := of_then (of_then h)
  obtain ⟨toolLifeEvents, inserted, h⟩ := of_bind h
  cases h
  obtain ⟨-, rfl⟩ := insertMaintenance_eq_ok.mp inserted
  exact .used payload.usageDelta_pos (requireTool_ok found) rfl rfl rfl

theorem recordCalibration_toolEffect {payload : CalibrationIn}
    (h : recordCalibration env db actor code payload = .ok (response, db')) :
    ToolEffect env.now db.tables db'.tables := by
  refine maintained_outcome h fun outcome h => ?_
  obtain ⟨⟨toolId, tool⟩, found, h⟩ := of_bind h
  obtain ⟨⟨personnelId, _⟩, -, h⟩ := of_bind h
  obtain ⟨calibrationEvents, inserted, h⟩ := of_bind h
  cases h
  obtain ⟨-, rfl⟩ := insertMaintenance_eq_ok.mp inserted
  exact .calibrated (requireTool_ok found) rfl rfl rfl

theorem maintenance_toolEffect (h : operation.perform env actor db = .ok (response, db')) :
    ToolEffect env.now db.tables db'.tables := by
  cases operation with
  | createTool =>
    obtain ⟨tool, registers⟩ := createTool_registered h
    exact .registered registers
  | recordToolLife => exact recordToolLife_toolEffect h
  | recordCalibration => exact recordCalibration_toolEffect h
  | _ =>
    simp only [MaintenanceOperation.perform, createAsset, createCode, createChecklist,
      transitionChecklist, createRequest, createOrder, approveOrder, startOrder,
      recordCheckResult, completeWork, verifyOrder, assignTool, createPreventivePlan,
      effectivePreventivePlan, generatePreventiveWork, recordSpareUse] at h
    refine maintained_outcome h fun outcome h => ?_
    repeat obtain ⟨_, -, h⟩ := of_bind h
    cases h
    exact .unmoved rfl rfl rfl

theorem plant_toolEffect {call : PlantCall}
    (h : plantAuthority.attempt call plant = .ok (response, plant')) :
    plant'.maintenance = plant.maintenance ∨
      ToolEffect call.now plant.maintenance plant'.maintenance := by
  rcases plant_cases h with ⟨_, -, -, same⟩ | ⟨_, _, -, performed, rfl⟩
  · exact .inl same
  · exact .inr (maintenance_toolEffect performed)

theorem plant_toolRegistered {call : PlantCall} {payload : ToolIn}
    (called : call.operation = .maintenance (.createTool payload))
    (h : plantAuthority.attempt call plant = .ok (response, plant')) :
    ∃ tool, ToolRegistered payload call.now plant.maintenance plant'.maintenance tool := by
  rcases plant_cases h with ⟨_, other, -⟩ | ⟨_, _, same, performed, rfl⟩
  · cases called.symm.trans other
  · cases called.symm.trans same
    exact createTool_registered performed

def MaintenanceTables.AssignedTool (tables : MaintenanceTables) (toolId taskId : Nat) : Prop :=
  tables.toolAssignments.any
    (fun row => row.toolId = toolId && row.operationTaskId = taskId) = true

/-- The gate of a task's start finds the tool at fault. -/
def MaintenanceTables.BlocksStart (tables : MaintenanceTables) (toolId taskId : Nat)
    (now : Timestamp) : Prop :=
  ∃ tool, tables.tools.find? toolId = some tool ∧ tables.AssignedTool toolId taskId ∧
    (tool.overLife = true ∨ tool.calibrationBlocks now = true)

/-- The life of a tool that was registered with the payload has reached its limit. -/
def LifeSpent (payload : ToolIn) (tables : MaintenanceTables) (toolId : Nat) : Prop :=
  payload.lifeLimit ≤ accumulated payload.lifeUsed (tables.usage toolId)

def CalibrationFailed (tables : MaintenanceTables) (toolId : Nat) : Prop :=
  ∃ event, tables.lastCalibration toolId = some event ∧ event.result = .fail

def CalibrationDue (tables : MaintenanceTables) (toolId : Nat) (now : Timestamp) : Prop :=
  ∃ tool due, tables.tools.find? toolId = some tool ∧ tool.calibrationRequired = true ∧
    tool.calibrationDueAt = some due ∧ due ≤ now

/-- What the status of a tool says, which was registered at a time. -/
def StatusSound (payload : ToolIn) (since : Timestamp) (tables : MaintenanceTables)
    (toolId : Nat) : ToolStatus → Prop
  | .active => ¬ LifeSpent payload tables toolId ∧ ¬ CalibrationFailed tables toolId
  | .overLife => LifeSpent payload tables toolId
  | .calibrationInvalid =>
    CalibrationFailed tables toolId ∨ CalibrationDue tables toolId since
  | .retired => False

structure ToolSound (payload : ToolIn) (since : Timestamp) (tables : MaintenanceTables)
    (toolId : Nat) (tool : MaintenanceTool) : Prop where
  found : tables.tools.find? toolId = some tool
  limit : tool.lifeLimit = payload.lifeLimit
  used : tool.lifeUsed = accumulated payload.lifeUsed (tables.usage toolId)
  required : tool.calibrationRequired = payload.calibrationRequired
  status : StatusSound payload since tables toolId tool.status

structure EventsKnown (tables : MaintenanceTables) : Prop where
  lifeEvents : ∀ id event, tables.toolLifeEvents.find? id = some event →
    event.toolId < tables.tools.nextId
  calibrations : ∀ id event, tables.calibrationEvents.find? id = some event →
    event.toolId < tables.tools.nextId

variable {payload : ToolIn} {since now : Timestamp} {tables tables' : MaintenanceTables}
  {toolId taskId : Nat} {tool : MaintenanceTool} {facts : ExecutionFacts}

theorem assignedTools_eq_nil_iff {condition : MaintenanceTool → Bool} :
    tables.assignedTools taskId condition = [] ↔ ∀ toolId tool,
      tables.tools.find? toolId = some tool → tables.AssignedTool toolId taskId →
      condition tool = false := by
  unfold MaintenanceTables.assignedTools MaintenanceTables.AssignedTool
  rw [List.filter_eq_nil_iff]
  constructor
  · intro h toolId tool found assigned
    have := h (toolId, tool) (Table.mem_entries.mpr found)
    simpa [assigned] using this
  · intro h entry member
    have := h entry.1 entry.2 (Table.mem_entries.mp member)
    rw [Bool.and_eq_true]
    intro both
    rw [this both.2] at both
    exact absurd both.1 Bool.false_ne_true

theorem not_blocksStart_iff : (∀ toolId, ¬ tables.BlocksStart toolId taskId now) ↔
    tables.assignedTools taskId (·.overLife) = [] ∧
      tables.assignedTools taskId (·.calibrationBlocks now) = [] := by
  rw [assignedTools_eq_nil_iff, assignedTools_eq_nil_iff]
  constructor
  · intro h
    refine ⟨fun toolId tool found assigned => ?_, fun toolId tool found assigned => ?_⟩
    · exact Bool.eq_false_iff.mpr fun blocks => h toolId ⟨tool, found, assigned, .inl blocks⟩
    · exact Bool.eq_false_iff.mpr fun blocks => h toolId ⟨tool, found, assigned, .inr blocks⟩
  · rintro ⟨within, valid⟩ toolId ⟨tool, found, assigned, spent | invalid⟩
    · exact Bool.eq_false_iff.mp (within toolId tool found assigned) spent
    · exact Bool.eq_false_iff.mp (valid toolId tool found assigned) invalid

theorem requireMaintenanceReadiness_eq_ok_iff {env : ExecutionEnv} :
    requireMaintenanceReadiness env facts taskId = .ok () ↔
      maintenanceBlockers env facts taskId = [] ∧
        ∀ toolId, ¬ env.maintenance.BlocksStart toolId taskId env.now := by
  rw [not_blocksStart_iff]
  have sorted : ((maintenanceBlockers env facts taskId).insertionSort fun x y => x.1 ≤ y.1).head? =
      none ↔ maintenanceBlockers env facts taskId = [] := by
    rw [List.head?_eq_none_iff, ← List.length_eq_zero_iff, List.length_insertionSort,
      List.length_eq_zero_iff]
  rw [← sorted, ← List.head?_eq_none_iff (l := env.maintenance.assignedTools taskId (·.overLife)),
    ← List.head?_eq_none_iff]
  unfold requireMaintenanceReadiness
  split
  next blocked => simp [blocked]
  next free =>
    split
    next spent => simp [spent]
    next within =>
      split
      next invalid => simp [invalid]
      next valid => simp [free, within, valid]

theorem guardOperationTaskMaintenance_eq_ok_iff {env : ExecutionEnv} {old new : OperationTask}
    (starts : new.status = .running ∧ old.status ≠ .running) :
    guardOperationTaskMaintenance env facts taskId old new = .ok () ↔
      maintenanceBlockers env facts taskId = [] ∧
        ∀ toolId, ¬ env.maintenance.BlocksStart toolId taskId env.now := by
  rw [not_blocksStart_iff]
  simp [guardOperationTaskMaintenance, bind_eq_ok, starts]

theorem ToolSound.blocks_iff (sound : ToolSound payload since tables toolId tool)
    (later : since ≤ now) : (tool.overLife = true ∨ tool.calibrationBlocks now = true) ↔
      LifeSpent payload tables toolId ∨ CalibrationFailed tables toolId ∨
        CalibrationDue tables toolId now := by
  have due : CalibrationDue tables toolId now ↔
      tool.calibrationRequired = true ∧ ∃ due, tool.calibrationDueAt = some due ∧ due ≤ now := by
    simp [CalibrationDue, sound.found]
  have passed : CalibrationDue tables toolId since → CalibrationDue tables toolId now := by
    rintro ⟨tool, due, found, required, dueAt, reached⟩
    exact ⟨tool, due, found, required, dueAt, Int.le_trans reached later⟩
  have gate : tool.calibrationBlocks now = true ↔
      tool.status = .calibrationInvalid ∨ CalibrationDue tables toolId now := by
    rw [due]
    cases h : tool.calibrationDueAt <;> simp [MaintenanceTool.calibrationBlocks, h]
  have status := sound.status
  rw [gate]
  cases h : tool.status with
  | active =>
    rw [h] at status
    simp [MaintenanceTool.overLife, h, status.1, status.2]
  | overLife =>
    rw [h] at status
    have spent : LifeSpent payload tables toolId := status
    simp [MaintenanceTool.overLife, h, spent]
  | calibrationInvalid =>
    rw [h] at status
    have invalid : CalibrationFailed tables toolId ∨ CalibrationDue tables toolId now :=
      status.imp_right passed
    simp [MaintenanceTool.overLife, h, invalid]
  | retired =>
    rw [h] at status
    exact status.elim

theorem usage_insert (event : ToolLifeEvent)
    (lifeEvents : tables'.toolLifeEvents = tables.toolLifeEvents.insert event) :
    tables'.usage toolId =
      tables.usage toolId ++ if event.toolId = toolId then [event.usageDelta] else [] := by
  by_cases own : event.toolId = toolId <;>
    simp [MaintenanceTables.usage, lifeEvents, Table.insert, own]

theorem accumulated_append (lifeUsed delta : Quantity) (deltas : List Quantity) :
    accumulated lifeUsed (deltas ++ [delta]) = toDouble (accumulated lifeUsed deltas + delta) := by
  simp [accumulated]

/-- A limit that has been reached stays reached. -/
theorem ToolIn.lifeLimit_le (payload : ToolIn) {used delta : Quantity} (nonneg : 0 ≤ delta)
    (h : payload.lifeLimit ≤ used) : payload.lifeLimit ≤ toDouble (used + delta) := by
  rw [← payload.lifeLimit_float]
  exact toDouble_mono payload.lifeLimit_pos (h.trans (le_add_of_nonneg_right nonneg))

theorem lastCalibration_insert (event : CalibrationEvent)
    (calibrations : tables'.calibrationEvents = tables.calibrationEvents.insert event) :
    tables'.lastCalibration toolId =
      if event.toolId = toolId then some event else tables.lastCalibration toolId := by
  unfold MaintenanceTables.lastCalibration
  rw [calibrations, Table.last?_insert]
  by_cases same : event.toolId = toolId <;> simp [same]

theorem ToolSound.congr (sound : ToolSound payload since tables toolId tool)
    (found : tables'.tools.find? toolId = some tool)
    (usage : tables'.usage toolId = tables.usage toolId)
    (last : tables'.lastCalibration toolId = tables.lastCalibration toolId) :
    ToolSound payload since tables' toolId tool := by
  have spent : LifeSpent payload tables' toolId = LifeSpent payload tables toolId := by
    rw [LifeSpent, LifeSpent, usage]
  have failed : CalibrationFailed tables' toolId = CalibrationFailed tables toolId := by
    rw [CalibrationFailed, CalibrationFailed, last]
  have due : CalibrationDue tables' toolId since = CalibrationDue tables toolId since := by
    rw [CalibrationDue, CalibrationDue, found, sound.found]
  refine ⟨found, sound.limit, sound.used.trans (by rw [usage]), sound.required, ?_⟩
  have status := sound.status
  cases h : tool.status <;> simp only [h, StatusSound, spent, failed, due] at status ⊢ <;>
    exact status

theorem ToolSound.applyLife (sound : ToolSound payload since tables toolId tool)
    {event : ToolLifeEvent} (positive : 0 < event.usageDelta) (own : event.toolId = toolId)
    (found : tables'.tools.find? toolId = some (tool.applyLife event.usageDelta))
    (lifeEvents : tables'.toolLifeEvents = tables.toolLifeEvents.insert event)
    (calibrations : tables'.calibrationEvents = tables.calibrationEvents) :
    ToolSound payload since tables' toolId (tool.applyLife event.usageDelta) := by
  have used : toDouble (tool.lifeUsed + event.usageDelta) =
      accumulated payload.lifeUsed (tables'.usage toolId) := by
    rw [sound.used, usage_insert event lifeEvents, if_pos own, accumulated_append]
  have spent : LifeSpent payload tables' toolId ↔
      tool.lifeLimit ≤ toDouble (tool.lifeUsed + event.usageDelta) := by
    rw [LifeSpent, ← used, sound.limit]
  refine ⟨found, sound.limit, used, sound.required, ?_⟩
  have status := sound.status
  by_cases reached : tool.lifeLimit ≤ toDouble (tool.lifeUsed + event.usageDelta)
  · simp only [MaintenanceTool.applyLife, reached, if_true]
    exact spent.mpr reached
  · simp only [MaintenanceTool.applyLife, reached, if_false]
    have failed : CalibrationFailed tables' toolId = CalibrationFailed tables toolId := by
      rw [CalibrationFailed, CalibrationFailed, MaintenanceTables.lastCalibration, calibrations]
      rfl
    cases h : tool.status with
    | active =>
      rw [h] at status
      exact ⟨fun now => reached (spent.mp now), failed ▸ status.2⟩
    | overLife =>
      rw [h] at status
      have before : payload.lifeLimit ≤ accumulated payload.lifeUsed (tables.usage toolId) := status
      rw [← sound.used] at before
      exact absurd (sound.limit.le.trans (payload.lifeLimit_le positive.le before)) reached
    | calibrationInvalid =>
      rw [h] at status
      rcases status with invalid | ⟨row, due, hrow, required, dueAt, passed⟩
      · exact .inl (failed ▸ invalid)
      · rw [sound.found] at hrow
        cases hrow
        exact .inr ⟨_, due, found, required, dueAt, passed⟩
    | retired =>
      rw [h] at status
      exact status.elim

theorem ToolSound.applyCalibration (sound : ToolSound payload since tables toolId tool)
    {event : CalibrationEvent} (own : event.toolId = toolId)
    (found : tables'.tools.find? toolId = some (tool.applyCalibration event.result event.validTo))
    (lifeEvents : tables'.toolLifeEvents = tables.toolLifeEvents)
    (calibrations : tables'.calibrationEvents = tables.calibrationEvents.insert event) :
    ToolSound payload since tables' toolId (tool.applyCalibration event.result event.validTo) := by
  have last : tables'.lastCalibration toolId = some event := by
    rw [lastCalibration_insert event calibrations, if_pos own]
  have usage : tables'.usage toolId = tables.usage toolId := by
    rw [MaintenanceTables.usage, lifeEvents]
    rfl
  have used : tool.lifeUsed = accumulated payload.lifeUsed (tables'.usage toolId) := by
    rw [sound.used, usage]
  have spent : LifeSpent payload tables' toolId ↔ tool.lifeLimit ≤ tool.lifeUsed := by
    rw [LifeSpent, ← used, sound.limit]
  refine ⟨found, sound.limit, used, sound.required, ?_⟩
  by_cases failed : event.result = .fail
  · simp only [MaintenanceTool.applyCalibration, failed, if_true]
    exact .inl ⟨event, last, failed⟩
  · have valid : ¬ CalibrationFailed tables' toolId := by
      rintro ⟨other, hother, fails⟩
      rw [last] at hother
      cases hother
      exact failed fails
    by_cases reached : tool.lifeLimit ≤ tool.lifeUsed
    · simp only [MaintenanceTool.applyCalibration, failed, reached, if_true, if_false]
      exact spent.mpr reached
    · simp only [MaintenanceTool.applyCalibration, failed, reached, if_false]
      exact ⟨fun now => reached (spent.mp now), valid⟩

theorem toolSound_step (effect : ToolEffect now tables tables')
    (sound : ToolSound payload since tables toolId tool) :
    ∃ tool', ToolSound payload since tables' toolId tool' := by
  cases effect with
  | unmoved tools lifeEvents calibrations =>
    refine ⟨tool, sound.congr (by rw [tools]; exact sound.found) ?_ ?_⟩
    · rw [MaintenanceTables.usage, lifeEvents]
      rfl
    · rw [MaintenanceTables.lastCalibration, calibrations]
      rfl
  | registered registers =>
    refine ⟨tool, sound.congr ?_ ?_ ?_⟩
    · rw [registers.tools, Table.find?_insert_of_find? _ sound.found]
    · rw [MaintenanceTables.usage, registers.lifeEvents]
      rfl
    · rw [MaintenanceTables.lastCalibration, registers.calibrations]
      rfl
  | @used other event positive found tools lifeEvents calibrations =>
    by_cases own : event.toolId = toolId
    · rw [own, sound.found] at found
      cases found
      refine ⟨_, sound.applyLife positive own ?_ lifeEvents calibrations⟩
      rw [tools, own, Table.find?_set_self _ sound.found]
    · refine ⟨tool, sound.congr ?_ ?_ ?_⟩
      · rw [tools, Table.find?_set_ne _ (Ne.symm own), sound.found]
      · rw [usage_insert event lifeEvents, if_neg own, List.append_nil]
      · rw [MaintenanceTables.lastCalibration, calibrations]
        rfl
  | @calibrated other event found tools lifeEvents calibrations =>
    by_cases own : event.toolId = toolId
    · rw [own, sound.found] at found
      cases found
      refine ⟨_, sound.applyCalibration own ?_ lifeEvents calibrations⟩
      rw [tools, own, Table.find?_set_self _ sound.found]
    · refine ⟨tool, sound.congr ?_ ?_ ?_⟩
      · rw [tools, Table.find?_set_ne _ (Ne.symm own), sound.found]
      · rw [MaintenanceTables.usage, lifeEvents]
        rfl
      · rw [lastCalibration_insert event calibrations, if_neg own]

end MiniOgas
