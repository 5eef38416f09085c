import MiniOgas.ExecutionAuthority

namespace MiniOgas

open Relational Serial

/-- The key of `execution_idempotency` and the request of an operation that takes an
idempotency key. -/
def ExecutionOperation.idempotency : ExecutionOperation → Option (ActionKey × Json)
  | .createProductionOrder _ | .reportQuantity _ _ => none
  | .attachWorkOrder order workOrder payload =>
    some (⟨"production_order_work_order", s!"{order}:{workOrder}", "attach",
      payload.idempotencyKey.value⟩, payload.json)
  | .releaseProductionOrder order payload =>
    some (⟨"production_order", order, "release", payload.idempotencyKey.value⟩, payload.json)
  | .dispatchWorkOrder workOrder payload =>
    some (⟨"work_order", workOrder, "dispatch", payload.idempotencyKey.value⟩, payload.json)
  | .startSetup taskId payload =>
    some (taskKey taskId "setup-start" payload.idempotencyKey, payload.json)
  | .completeSetup taskId payload =>
    some (taskKey taskId "setup-complete" payload.idempotencyKey, payload.json)
  | .startTask taskId payload =>
    some (taskKey taskId "start" payload.idempotencyKey, payload.json)
  | .pauseTask taskId payload =>
    some (taskKey taskId "pause" payload.idempotencyKey, payload.json)
  | .resumeTask taskId payload =>
    some (taskKey taskId "resume" payload.idempotencyKey, payload.json)
  | .holdTask taskId payload => some (taskKey taskId "hold" payload.idempotencyKey, payload.json)
  | .releaseHold taskId payload =>
    some (taskKey taskId "release-hold" payload.idempotencyKey, payload.json)
  | .completeTask taskId payload =>
    some (taskKey taskId "complete" payload.idempotencyKey, payload.json)
  | .startDowntime taskId payload =>
    some (taskKey taskId "downtime-start" payload.idempotencyKey, payload.json)
  | .endDowntime downtimeId payload =>
    some (⟨"downtime", toString downtimeId, "end", payload.idempotencyKey.value⟩, payload.json)
  | .closeTask taskId payload => some (taskKey taskId "close" payload.idempotencyKey, payload.json)
  | .closeWorkOrder workOrder payload =>
    some (⟨"work_order", workOrder, "close", payload.idempotencyKey.value⟩, payload.json)
  | .closeProductionOrder order payload =>
    some (⟨"production_order", order, "close", payload.idempotencyKey.value⟩, payload.json)

/-- The response that `_idempotent_get` finds under the key. -/
def StoredUnder (db : ExecutionTables) (key : ActionKey) (request response : Json) : Prop :=
  ∃ id record, db.idempotency.first? (·.matchesKey key) = some (id, record) ∧
    record.requestHash = requestHash request ∧ record.response = response

def keyReused (key : ActionKey) : Fault :=
  executionError 409 "IDEMPOTENCY_KEY_REUSED"
    "the idempotency key was already used with a different request"
    [("resource_type", .str key.resourceType), ("resource_id", .str key.resourceId),
      ("action", .str key.action)]

variable {env : ExecutionEnv} {db db' : ExecutionTables} {key : ActionKey} {request : Json}
  {actor : String} {body : ExecutionFacts → Except Fault Outcome} {response : Json}
  {operation : ExecutionOperation}

theorem perform_idempotent (h : operation.idempotency = some (key, request)) (env : ExecutionEnv)
    (actor : String) : ∃ body, ∀ db,
      operation.perform env actor db = idempotent env db key request actor body := by
  cases operation with
  | createProductionOrder | reportQuantity => cases h
  | _ =>
    obtain ⟨rfl, rfl⟩ := Prod.mk.inj (Option.some.inj h)
    exact ⟨_, fun _ => rfl⟩

theorem idempotentGet_of_stored {request' : Json} (stored : StoredUnder db key request response) :
    idempotentGet db.idempotency key request' =
      if requestHash request = requestHash request' then .ok (some response)
      else .error (keyReused key) := by
  obtain ⟨id, record, first, hash, rfl⟩ := stored
  simp only [idempotentGet, first, check, hash]
  split
  next => rfl
  next => rfl

theorem idempotent_of_stored {request' : Json} (stored : StoredUnder db key request response) :
    idempotent env db key request' actor body =
      if requestHash request = requestHash request' then .ok (response, db)
      else .error (keyReused key) := by
  unfold idempotent
  rw [idempotentGet_of_stored stored]
  split
  next => rfl
  next => rfl

theorem matchesKey_self {hash : List JsonToken} : (IdempotencyRecord.matchesKey
    ⟨key.resourceType, key.resourceId, key.action, key.idempotencyKey, hash, response⟩ key) =
      true := by
  simp [IdempotencyRecord.matchesKey]

theorem idempotentGet_eq_some (h : idempotentGet db.idempotency key request = .ok (some response)) :
    StoredUnder db key request response := by
  unfold idempotentGet at h
  split at h
  next => cases h
  next id record first =>
    obtain ⟨_, same, h⟩ := of_bind h
    exact ⟨id, record, first, check_eq_ok.mp same, Option.some.inj (Except.ok.inj h)⟩

theorem idempotentGet_eq_none (h : idempotentGet db.idempotency key request = .ok none) :
    db.idempotency.first? (·.matchesKey key) = none := by
  unfold idempotentGet at h
  split at h
  next first => exact first
  next =>
    replace h := of_then h
    cases h

theorem audited_idempotency (h : audited env db actor body = .ok (response, db')) :
    db'.idempotency = db.idempotency := by
  obtain ⟨outcome, -, h⟩ := of_bind h
  obtain ⟨auditLogs, -, h⟩ := of_bind h
  cases h
  rfl

theorem idempotent_stores (h : idempotent env db key request actor body = .ok (response, db')) :
    StoredUnder db' key request response ∧
      ∀ key' request' response', StoredUnder db key' request' response' →
        StoredUnder db' key' request' response' := by
  obtain ⟨replay, hget, h⟩ := of_bind h
  cases replay with
  | some replay =>
    cases h
    exact ⟨idempotentGet_eq_some hget, fun _ _ _ stored => stored⟩
  | none =>
    obtain ⟨⟨reply, mid⟩, haudited, h⟩ := of_bind h
    obtain ⟨idempotency, hstore, h⟩ := of_bind h
    cases h
    obtain ⟨_, fresh, hstore⟩ := of_bind hstore
    cases hstore
    have same := audited_idempotency haudited
    refine ⟨?_, ?_⟩
    · refine ⟨mid.idempotency.nextId, ⟨key.resourceType, key.resourceId, key.action,
        key.idempotencyKey, requestHash request, response⟩, ?_, rfl, rfl⟩
      rw [Table.first?_insert, same, idempotentGet_eq_none hget, matchesKey_self]
      rfl
    · rintro key' request' response' ⟨id, record, first, hash, stored⟩
      refine ⟨id, record, ?_, hash, stored⟩
      rw [Table.first?_insert, same, first]
      rfl

theorem reportQuantity_idempotency {taskId : Nat} {payload : QuantityReportIn}
    (h : reportQuantity env db taskId payload actor = .ok (response, db')) :
    db'.idempotency = db.idempotency := by
  obtain ⟨task, -, h⟩ := of_bind h
  split at h
  next =>
    replace h := of_then h
    cases h
    rfl
  next => exact audited_idempotency h

theorem storedUnder_perform (h : operation.perform env actor db = .ok (response, db'))
    {key' : ActionKey} {request' response' : Json}
    (stored : StoredUnder db key' request' response') :
    StoredUnder db' key' request' response' := by
  cases named : operation.idempotency with
  | some entry =>
    obtain ⟨body, frame⟩ := perform_idempotent named env actor
    rw [frame] at h
    exact (idempotent_stores h).2 key' request' response' stored
  | none =>
    have same : db'.idempotency = db.idempotency := by
      cases operation with
      | createProductionOrder payload =>
        unfold ExecutionOperation.perform createProductionOrder at h
        exact audited_idempotency h
      | reportQuantity taskId payload => exact reportQuantity_idempotency h
      | _ => cases named
    unfold StoredUnder
    rw [same]
    exact stored

theorem storedUnder_run (calls : List ExecutionCall)
    (stored : StoredUnder db key request response) :
    StoredUnder (executionAuthority.run db calls) key request response :=
  Authority.invariant (I := fun db => StoredUnder db key request response)
    (fun hi h => storedUnder_perform h hi) calls stored

/-- Once a call with an idempotency key has succeeded, a call with the same key on the same
resource is answered with the stored response in every later state, and refused when its
request has another canonical text; either way no table changes. -/
theorem replayed_run (calls later : List ExecutionCall) (first again : ExecutionCall)
    (key : ActionKey) (request request' response : Json) (db : ExecutionTables)
    (named : first.operation.idempotency = some (key, request))
    (named' : again.operation.idempotency = some (key, request'))
    (succeeded : executionAuthority.attempt first (executionAuthority.run .empty calls) =
      .ok (response, db)) :
    executionAuthority.attempt again (executionAuthority.run db later) =
        (if canonicalJson request' = canonicalJson request then
          .ok (response, executionAuthority.run db later)
        else .error (keyReused key)) ∧
      executionAuthority.serve (executionAuthority.run db later) again =
        executionAuthority.run db later := by
  obtain ⟨body, frame⟩ := perform_idempotent named first.env first.actor
  obtain ⟨body', frame'⟩ := perform_idempotent named' again.env again.actor
  have done : idempotent first.env (executionAuthority.run .empty calls) key request first.actor
      body = .ok (response, db) := by
    rw [← frame]
    exact succeeded
  have stored := storedUnder_run later (idempotent_stores done).1
  have answer : executionAuthority.attempt again (executionAuthority.run db later) =
      if canonicalJson request' = canonicalJson request then
        .ok (response, executionAuthority.run db later)
      else .error (keyReused key) := by
    change again.operation.perform again.env again.actor _ = _
    rw [frame', idempotent_of_stored stored]
    exact if_congr eq_comm rfl rfl
  refine ⟨answer, ?_⟩
  by_cases same : canonicalJson request' = canonicalJson request <;>
    simp [Authority.serve, answer, same]

end MiniOgas
