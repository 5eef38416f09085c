import Mathlib.Data.List.Induction
import MiniOgas.CompletionProgress
import MiniOgas.IdempotencyLaws

namespace MiniOgas

open Relational Serial Interleaving

abbrev CompletionServer :=
  Server Bool CompletionPhase ExecutionTables CompletionWrite CompletionLock Json Fault

def Committed (σ : CompletionServer) (p : Bool) : Prop := ∃ reply, σ.session p = .committed reply

def CompletionPhase.counted : CompletionPhase → Bool
  | .updateOrder _ _ | .formatTask _ | .insertAudit _ _ | .insertIdempotency _ | .commit _ => true
  | _ => false

/-- The other call is committed, and this one has not counted the executions yet. -/
def SeesOther (σ : CompletionServer) (p : Bool) : Prop :=
  Committed σ (!p) ∧ ∃ phase, σ.session p = .running phase ∧ phase.counted = false

/-- Which rows of the task, the execution and the order a call has written. -/
def Logged (log : List CompletionWrite) (task execution order : Bool) : Prop :=
  log.any (·.isTask) = task ∧ log.any (·.isExecution) = execution ∧ log.any (·.isOrder) = order

/-- What a call has written before a statement, when `saw` says that it counts the executions with
the other call committed, `other` that the other one is committed, and `closed` that the other one
has completed the order. -/
def CompletionStage (orderId executionId : Nat) (log : List CompletionWrite)
    (saw other closed : Prop) :
    CompletionPhase → Prop
  | .selectIdempotency | .lockTask | .selectAccounted | .updateTask _ _ =>
    log = [] ∧ (saw ↔ other)
  | .insertHistory _ _ | .selectTask _ => Logged log true false false ∧ (saw ↔ other)
  | .countTasks id _ | .updateExecution id _ =>
    id = executionId ∧ Logged log true false false ∧ (saw ↔ other)
  | .selectExecution id _ => id = executionId ∧ Logged log true true false ∧ (saw ↔ other)
  | .countExecutions id _ => id = orderId ∧ Logged log true true false ∧ (saw ↔ other)
  | .updateOrder id _ => id = orderId ∧ Logged log true true false ∧ saw
  | .formatTask _ | .insertAudit _ _ | .insertIdempotency _ | .commit _ =>
    ∃ order, Logged log true true order ∧ (order = true → saw) ∧ (saw → order = true ∨ closed)

structure Rolling (db : ExecutionTables) (orderId : Nat) (calls : Bool → CompletionCall)
    (executionId : Bool → Nat) (σ : CompletionServer) (saw : Bool → Prop) : Prop where
  writes : ∀ p, ∀ w ∈ σ.log p, WriteOf db orderId calls executionId p w
  data : Progress db orderId calls executionId σ.data.facts (Committed σ) (Committed σ)
    (∃ p, Committed σ p ∧ saw p)
  unanswered : ∀ p, ¬ Committed σ p → σ.data.idempotency.any (·.matchesKey (calls p).key) = false
  stage : ∀ p phase, σ.session p = .running phase →
    CompletionStage orderId (executionId p) (σ.log p) (saw p) (Committed σ (!p))
      (Committed σ (!p) ∧ saw (!p)) phase

variable {db db' : ExecutionTables} {orderId : Nat} {calls : Bool → CompletionCall}
  {executionId : Bool → Nat} {σ : CompletionServer} {saw : Bool → Prop} {p q : Bool}
  {phase next : CompletionPhase} {locks : List CompletionLock} {writes : List CompletionWrite}
  {reply : Json}

theorem orRaise_eq_go {α : Type} {x : Except Fault α} {f : α → CompletionAction}
    (h : orRaise x f = .go locks writes next) : ∃ a, x = .ok a ∧ f a = .go locks writes next := by
  cases x with
  | ok a => exact ⟨a, rfl, h⟩
  | error fault => cases h

theorem orRaise_eq_commit {α : Type} {x : Except Fault α} {f : α → CompletionAction}
    (h : orRaise x f = .commit reply) : ∃ a, x = .ok a ∧ f a = .commit reply := by
  cases x with
  | ok a => exact ⟨a, rfl, h⟩
  | error fault => cases h

theorem Logged.append {log : List CompletionWrite} {task execution order : Bool}
    (logged : Logged log task execution order) (writes : List CompletionWrite) :
    Logged (log ++ writes) (task || writes.any (·.isTask)) (execution || writes.any (·.isExecution))
      (order || writes.any (·.isOrder)) := by
  obtain ⟨rfl, rfl, rfl⟩ := logged
  simp [Logged]

theorem Rolling.view (last : LastTasks db orderId calls executionId)
    (rolling : Rolling db orderId calls executionId σ saw) (p : Bool) :
    Progress db orderId calls executionId ((completionProtocol calls).view σ p).facts
      (withOwn (Committed σ) p ((σ.log p).any (·.isTask)))
      (withOwn (Committed σ) p ((σ.log p).any (·.isExecution)))
      ((∃ p, Committed σ p ∧ saw p) ∨ (σ.log p).any (·.isOrder) = true) :=
  rolling.data.writes last (rolling.writes p)

theorem not_committed (running : σ.session p = .running phase) : ¬ Committed σ p := by
  rintro ⟨reply, h⟩
  rw [running] at h
  cases h

theorem Rolling.goes (last : LastTasks db orderId calls executionId)
    (rolling : Rolling db orderId calls executionId σ saw) (running : σ.session p = .running phase)
    (acts : completionStatement (calls p) phase ((completionProtocol calls).view σ p) =
      .go locks writes next) :
    (∀ w ∈ writes, WriteOf db orderId calls executionId p w) ∧
      CompletionStage orderId (executionId p) (σ.log p ++ writes) (saw p) (Committed σ (!p))
        (Committed σ (!p) ∧ saw (!p)) next := by
  have stage := rolling.stage p phase running
  have view := rolling.view last p
  generalize (completionProtocol calls).view σ p = seen at acts view
  cases phase with
  | selectIdempotency =>
    obtain ⟨replay, -, acts⟩ := orRaise_eq_go acts
    cases replay with
    | some response => cases acts
    | none =>
      cases acts
      exact ⟨by simp, by simpa [CompletionStage] using stage⟩
  | lockTask | selectAccounted =>
    obtain ⟨task, -, acts⟩ := orRaise_eq_go acts
    cases acts
    exact ⟨by simp, by simpa [CompletionStage] using stage⟩
  | updateTask task accounted =>
    obtain ⟨new, h, acts⟩ := orRaise_eq_go acts
    cases acts
    obtain ⟨old, hold, h⟩ := of_bind h
    replace h := of_then (of_then h)
    cases h
    obtain ⟨task', found, ofExecution, -⟩ := view.ownTask p
    have isOld := (Option.filter_eq_some_iff.mp (orFault_eq_ok.mp hold)).1
    rw [found] at isOld
    cases isOld
    obtain ⟨empty, saw⟩ := stage
    refine ⟨?_, ?_, saw⟩
    · simpa [WriteOf, StatusChange.apply] using ⟨ofExecution, rfl⟩
    · simp [empty, Logged, CompletionWrite.isTask, CompletionWrite.isExecution,
        CompletionWrite.isOrder]
  | insertHistory task accounted =>
    obtain ⟨facts, -, acts⟩ := orRaise_eq_go acts
    cases acts
    obtain ⟨logged, saw⟩ := stage
    exact ⟨by simp [WriteOf], by simpa using logged.append [.history _], saw⟩
  | selectTask accounted =>
    obtain ⟨task, found, acts⟩ := orRaise_eq_go acts
    cases acts
    obtain ⟨task', found', ofExecution, -⟩ := view.ownTask p
    rw [orFault_eq_ok.mp found] at found'
    cases found'
    obtain ⟨logged, saw⟩ := stage
    exact ⟨by simp, ofExecution, by simpa using logged, saw⟩
  | countTasks id accounted =>
    obtain ⟨rfl, logged, saw⟩ := stage
    have finished : withOwn (Committed σ) p ((σ.log p).any (·.isTask)) p := .inr ⟨rfl, logged.1⟩
    simp only [completionStatement, view.noneRemaining last finished, ne_eq, not_true_eq_false,
      ↓reduceIte] at acts
    cases acts
    exact ⟨by simp, rfl, by simpa using logged, saw⟩
  | updateExecution id accounted =>
    obtain ⟨rfl, logged, saw⟩ := stage
    obtain ⟨before, after, isBefore, found, sameOrder, ofOrder, done⟩ := view.ownExecution p
    have isOpen : after.status.done = false := by
      rw [Bool.eq_false_iff]
      intro isDone
      rcases done.mp isDone with committed | ⟨-, written⟩
      · exact not_committed running committed
      · rw [logged.2.1] at written
        cases written
    have matched : (seen.facts.executions.find? (executionId p)).filter (fun row =>
        row.status = .released || row.status = .dispatched || row.status = .inProgress) =
          some after := by
      cases hstatus : after.status <;> simp_all [ExecutionStatus.done]
    simp only [completionStatement, matched] at acts
    cases acts
    refine ⟨?_, rfl, by simpa using logged.append [.execution (executionId p) _], saw⟩
    intro w hw
    cases List.mem_singleton.mp hw
    refine ⟨rfl, ofOrder, rfl, fun row found => ?_⟩
    rw [isBefore] at found
    cases found
    exact sameOrder
  | selectExecution id accounted =>
    obtain ⟨rfl, logged, saw⟩ := stage
    obtain ⟨execution, found, acts⟩ := orRaise_eq_go acts
    cases acts
    obtain ⟨before, after, -, found', -, ofOrder, -⟩ := view.ownExecution p
    rw [orFault_eq_ok.mp found] at found'
    cases found'
    exact ⟨by simp, ofOrder, by simpa using logged, saw⟩
  | countExecutions id accounted =>
    obtain ⟨rfl, logged, saw⟩ := stage
    have allDone := view.allDone_iff last
    simp only [completionStatement] at acts
    split at acts
    next same =>
      cases acts
      have other := allDone.mp same (!p)
      refine ⟨by simp, rfl, by simpa using logged, saw.mpr ?_⟩
      rcases other with committed | ⟨own, -⟩
      · exact committed
      · simp at own
    next differ =>
      cases acts
      have unseen : ¬ Committed σ (!p) := by
        intro committed
        refine differ (allDone.mpr fun q => ?_)
        by_cases own : q = p
        · exact .inr ⟨own, logged.2.1⟩
        · rw [← Bool.eq_not.mpr own] at committed
          exact .inl committed
      refine ⟨by simp, false, by simpa using logged, by simp, fun h => absurd (saw.mp h) unseen⟩
  | updateOrder id accounted =>
    obtain ⟨rfl, logged, saw⟩ := stage
    obtain ⟨order, found, completes, opens⟩ := view.order
    simp only [completionStatement] at acts
    split at acts
    next row matched =>
      cases acts
      refine ⟨by simp [WriteOf], true, by simpa using logged.append [.order id _], fun _ => saw,
        fun _ => .inl rfl⟩
    next unmatched =>
      cases acts
      refine ⟨by simp, false, by simpa using logged, by simp, fun _ => .inr ?_⟩
      by_contra other
      have isOpen : order.status = .inProgress := by
        refine opens ?_
        rintro (⟨q, committed, sawOther⟩ | written)
        · by_cases own : q = p
          · subst own
            exact not_committed running committed
          · have := Bool.eq_not.mpr own
            subst this
            exact other ⟨committed, sawOther⟩
        · rw [logged.2.2] at written
          cases written
      rw [found, Option.filter_some, if_pos (by simpa using isOpen)] at unmatched
      cases unmatched
  | formatTask accounted =>
    obtain ⟨response, -, acts⟩ := orRaise_eq_go acts
    cases acts
    obtain ⟨order, logged, seen⟩ := stage
    exact ⟨by simp, order, by simpa using logged, seen⟩
  | insertAudit response accounted =>
    simp only [completionStatement] at acts
    split at acts
    next =>
      cases acts
      obtain ⟨order, logged, seen⟩ := stage
      exact ⟨by simp [WriteOf], order, by simpa using logged.append [.auditLogs _], seen⟩
    next => cases acts
  | insertIdempotency response =>
    obtain ⟨table, -, acts⟩ := orRaise_eq_go acts
    cases acts
    obtain ⟨order, logged, seen⟩ := stage
    refine ⟨?_, order, by simpa using logged.append [.idempotency _], seen⟩
    simp [WriteOf, IdempotencyRecord.matchesKey]
  | commit response => cases acts

theorem Rolling.commits (rolling : Rolling db orderId calls executionId σ saw)
    (running : σ.session p = .running phase)
    (acts : completionStatement (calls p) phase ((completionProtocol calls).view σ p) =
      .commit reply) : phase = .commit reply := by
  have stage := rolling.stage p phase running
  have unanswered := rolling.unanswered p (not_committed running)
  cases phase with
  | selectIdempotency =>
    obtain ⟨replay, found, acts⟩ := orRaise_eq_commit acts
    have empty : (completionProtocol calls).view σ p = σ.data := by
      rw [Protocol.view, stage.1]
      rfl
    have none : σ.data.idempotency.first? (·.matchesKey (calls p).key) = none :=
      Table.first?_eq_none_iff.mpr (Table.any_eq_false_iff.mp unanswered)
    rw [empty, idempotentGet, none] at found
    cases found
    cases acts
  | lockTask | selectAccounted | updateTask task accounted | insertHistory task accounted
  | selectTask accounted | selectExecution id accounted | formatTask accounted
  | insertIdempotency response =>
    obtain ⟨_, -, acts⟩ := orRaise_eq_commit acts
    cases acts
  | countTasks id accounted | updateExecution id accounted | countExecutions id accounted
  | updateOrder id accounted | insertAudit response accounted =>
    simp only [completionStatement] at acts
    split at acts <;> cases acts
  | commit response =>
    cases acts
    rfl

theorem Rolling.sees (rolling : Rolling db orderId calls executionId σ saw)
    (sees : SeesOther σ p) : saw p := by
  obtain ⟨other, phase, running, uncounted⟩ := sees
  have stage := rolling.stage p phase running
  cases phase with
  | selectIdempotency => exact stage.2.mpr other
  | lockTask => exact stage.2.mpr other
  | selectAccounted => exact stage.2.mpr other
  | updateTask task accounted => exact stage.2.mpr other
  | insertHistory task accounted => exact stage.2.mpr other
  | selectTask accounted => exact stage.2.mpr other
  | countTasks id accounted => exact stage.2.2.mpr other
  | updateExecution id accounted => exact stage.2.2.mpr other
  | selectExecution id accounted => exact stage.2.2.mpr other
  | countExecutions id accounted => exact stage.2.2.mpr other
  | updateOrder id accounted => cases uncounted
  | formatTask accounted => cases uncounted
  | insertAudit response accounted => cases uncounted
  | insertIdempotency response => cases uncounted
  | commit response => cases uncounted

theorem Rolling.advance (last : LastTasks db orderId calls executionId)
    (rolling : Rolling db orderId calls executionId σ saw) (running : σ.session p = .running phase)
    (acts : completionStatement (calls p) phase ((completionProtocol calls).view σ p) =
      .go locks writes next) :
    Rolling db orderId calls executionId (σ.advance p locks writes next) saw := by
  obtain ⟨own, stage⟩ := rolling.goes last running acts
  have committed : ∀ q, Committed (σ.advance p locks writes next) q ↔ Committed σ q := by
    intro q
    by_cases same : q = p
    · subst same
      simp [Committed, Server.advance, running]
    · simp [Committed, Server.advance, same]
  have committed : Committed (σ.advance p locks writes next) = Committed σ :=
    funext fun q => propext (committed q)
  refine ⟨fun q w hw => ?_, ?_, ?_, fun q phase' running' => ?_⟩
  · by_cases same : q = p
    · subst same
      rw [advance_log_self, List.mem_append] at hw
      exact hw.elim (rolling.writes q w) (own w)
    · rw [advance_log_ne σ p locks writes next same] at hw
      exact rolling.writes q w hw
  · rw [committed]
    exact rolling.data
  · rw [committed]
    exact rolling.unanswered
  · rw [committed]
    by_cases same : q = p
    · subst same
      rw [advance_session_self] at running'
      cases running'
      rw [advance_log_self]
      exact stage
    · rw [advance_session_ne σ p locks writes next same] at running'
      rw [advance_log_ne σ p locks writes next same]
      exact rolling.stage q phase' running'

theorem Rolling.abandon (rolling : Rolling db orderId calls executionId σ saw)
    (running : σ.session p = .running phase) {status : Session CompletionPhase Json Fault}
    (ended : ∀ phase reply, status ≠ .running phase ∧ status ≠ .committed reply) :
    Rolling db orderId calls executionId (σ.finish p σ.data status) saw := by
  have committed : ∀ q, Committed (σ.finish p σ.data status) q ↔ Committed σ q := by
    intro q
    by_cases same : q = p
    · subst same
      simp only [Committed, finish_session_self, running, reduceCtorEq, exists_false, iff_false]
      rintro ⟨reply, h⟩
      exact (ended phase reply).2 h
    · simp [Committed, finish_session_ne σ p σ.data status same]
  have committed : Committed (σ.finish p σ.data status) = Committed σ :=
    funext fun q => propext (committed q)
  refine ⟨fun q w hw => ?_, ?_, ?_, fun q phase' running' => ?_⟩
  · by_cases same : q = p
    · subst same
      simp at hw
    · rw [finish_log_ne σ p σ.data status same] at hw
      exact rolling.writes q w hw
  · rw [committed]
    exact rolling.data
  · rw [committed]
    exact rolling.unanswered
  · rw [committed]
    by_cases same : q = p
    · subst same
      rw [finish_session_self] at running'
      exact absurd running' (ended phase' .null).1
    · rw [finish_session_ne σ p σ.data status same] at running'
      rw [finish_log_ne σ p σ.data status same]
      exact rolling.stage q phase' running'

theorem key_ne (last : LastTasks db orderId calls executionId) (ne : p ≠ q) :
    (calls p).key ≠ (calls q).key := by
  intro same
  have texts : toString (calls p).taskId = toString (calls q).taskId :=
    congrArg ActionKey.resourceId same
  have digits : Nat.toDigits 10 (calls p).taskId = Nat.toDigits 10 (calls q).taskId := by
    simpa using congrArg String.toList texts
  have numbers := congrArg (fun l => Nat.ofDigitChars 10 l 0) digits
  rw [Nat.ofDigitChars_toDigits (by omega) (by omega),
    Nat.ofDigitChars_toDigits (by omega) (by omega)] at numbers
  exact last.taskId_ne ne numbers

theorem unanswered_writes (last : LastTasks db orderId calls executionId) (ne : p ≠ q)
    {ws : List CompletionWrite} (own : ∀ w ∈ ws, WriteOf db orderId calls executionId p w)
    (unanswered : db'.idempotency.any (·.matchesKey (calls q).key) = false) :
    (ws.foldl ExecutionTables.write db').idempotency.any (·.matchesKey (calls q).key) = false := by
  induction ws generalizing db' with
  | nil => exact unanswered
  | cons w ws ih =>
    refine ih (fun w hw => own w (List.mem_cons_of_mem _ hw)) ?_
    have own := own w List.mem_cons_self
    cases w with
    | idempotency row =>
      have other : row.matchesKey (calls q).key = false := by
        rw [Bool.eq_false_iff]
        intro matched
        exact key_ne last ne ((matchesKey_iff.mp own).symm.trans (matchesKey_iff.mp matched))
      simpa [ExecutionTables.write, Table.any, Table.insert, other] using unanswered
    | task id row => exact unanswered
    | execution id row => exact unanswered
    | order id row => exact unanswered
    | history row => exact unanswered
    | auditLogs row => exact unanswered

variable {events : List (Event Bool)} {log : List CompletionWrite}

theorem seen_late {saw saw' closed closed' : Prop}
    (stage : ∃ order, Logged log true true order ∧ (order = true → saw) ∧
      (saw → order = true ∨ closed)) (same : saw' ↔ saw) (closes : closed → closed') :
    ∃ order, Logged log true true order ∧ (order = true → saw') ∧
      (saw' → order = true ∨ closed') := by
  obtain ⟨order, logged, orderSaw, sawOrder⟩ := stage
  exact ⟨order, logged, fun h => same.mpr (orderSaw h),
    fun h => (sawOrder (same.mp h)).imp_right closes⟩

theorem CompletionStage.other_commits {id executionId : Nat}
    {saw saw' other other' closed closed' : Prop}
    (stage : CompletionStage id executionId log saw other closed phase)
    (early : phase.counted = false → (saw' ↔ other')) (late : phase.counted = true → (saw' ↔ saw))
    (closes : closed → closed') :
    CompletionStage id executionId log saw' other' closed' phase := by
  cases phase with
  | selectIdempotency => exact ⟨stage.1, early rfl⟩
  | lockTask => exact ⟨stage.1, early rfl⟩
  | selectAccounted => exact ⟨stage.1, early rfl⟩
  | updateTask task accounted => exact ⟨stage.1, early rfl⟩
  | insertHistory task accounted => exact ⟨stage.1, early rfl⟩
  | selectTask accounted => exact ⟨stage.1, early rfl⟩
  | countTasks id accounted | updateExecution id accounted | selectExecution id accounted
  | countExecutions id accounted => exact ⟨stage.1, stage.2.1, early rfl⟩
  | updateOrder id accounted => exact ⟨stage.1, stage.2.1, (late rfl).mpr stage.2.2⟩
  | formatTask accounted | insertAudit response accounted | insertIdempotency response
  | commit response => exact seen_late stage (late rfl) closes

theorem Rolling.commit (last : LastTasks db orderId calls executionId)
    (rolling : Rolling db orderId calls executionId σ saw)
    (running : σ.session p = .running (.commit reply)) {σ' : CompletionServer}
    (ended : σ' = σ.finish p ((completionProtocol calls).view σ p) (.committed reply)) :
    Rolling db orderId calls executionId σ' (fun q => saw q ∨ SeesOther σ' q) := by
  subst ended
  set σ' : CompletionServer :=
    σ.finish p ((completionProtocol calls).view σ p) (.committed reply) with hσ'
  have committed : ∀ q, Committed σ' q ↔ Committed σ q ∨ q = p := by
    intro q
    by_cases same : q = p
    · subst same
      simp [Committed, hσ']
    · simp [Committed, hσ', finish_session_ne σ p _ _ same, same]
  have uncommitted : ¬ Committed σ p := not_committed running
  have blind : ∀ q, Committed σ' q → (saw q ∨ SeesOther σ' q ↔ saw q) := by
    intro q done
    refine ⟨fun h => h.resolve_right ?_, .inl⟩
    rintro ⟨-, phase, running, -⟩
    exact not_committed running done
  obtain ⟨order, ⟨isTask, isExecution, isOrder⟩, orderSaw, sawOrder⟩ := rolling.stage p _ running
  have own : ∀ q, withOwn (Committed σ) p true q ↔ Committed σ' q := by
    intro q
    rw [committed]
    simp [withOwn]
  have closed : (∃ q, Committed σ' q ∧ (saw q ∨ SeesOther σ' q)) ↔
      (∃ q, Committed σ q ∧ saw q) ∨ order = true := by
    constructor
    · rintro ⟨q, done, sees⟩
      have before : saw q := (blind q done).mp sees
      rcases (committed q).mp done with earlier | now
      · exact .inl ⟨q, earlier, before⟩
      · exact (sawOrder (now ▸ before)).symm.imp_left fun other => ⟨!p, other⟩
    · rintro (⟨q, done, sees⟩ | written)
      · exact ⟨q, (committed q).mpr (.inl done), .inl sees⟩
      · exact ⟨p, (committed p).mpr (.inr rfl), .inl (orderSaw written)⟩
  refine ⟨fun q w hw => ?_, ?_, fun q open' => ?_, fun q phase running' => ?_⟩
  · by_cases same : q = p
    · subst same
      simp [hσ'] at hw
    · rw [hσ', finish_log_ne σ p _ _ same] at hw
      exact rolling.writes q w hw
  · have view := rolling.view last p
    rw [isTask, isExecution, isOrder] at view
    exact view.of_iff (fun q => (own q).symm) (fun q => (own q).symm) closed
  · rw [committed] at open'
    push Not at open'
    exact unanswered_writes last open'.2.symm (rolling.writes p) (rolling.unanswered q open'.1)
  · have ne : q ≠ p := by
      rintro rfl
      simp [hσ'] at running'
    have other : (!q) = p := by
      cases p <;> cases q <;> simp_all
    have otherDone : Committed σ' (!q) := (committed _).mpr (.inr other)
    have stage := rolling.stage q phase (by rw [← running', hσ', finish_session_ne σ p _ _ ne])
    have log : σ'.log q = σ.log q := finish_log_ne σ p _ _ ne
    rw [log]
    refine stage.other_commits (fun early => ?_) (fun late => ?_) ?_
    · exact iff_of_true (.inr ⟨otherDone, phase, running', early⟩) otherDone
    · refine ⟨fun h => h.resolve_right ?_, .inl⟩
      rintro ⟨-, phase', running'', early⟩
      rw [running'] at running''
      cases running''
      rw [late] at early
      cases early
    · rw [other]
      exact fun closed => absurd closed.1 uncommitted

/-- A call counts the executions after the other one has committed. -/
def CountsAfterOther (db : ExecutionTables) (calls : Bool → CompletionCall)
    (events : List (Event Bool)) (p : Bool) : Prop :=
  ∃ before after, events = before ++ after ∧
    SeesOther ((completionProtocol calls).exec ((completionProtocol calls).init db) before) p

theorem countsAfterOther_append {event : Event Bool} :
    CountsAfterOther db calls (events ++ [event]) p ↔ CountsAfterOther db calls events p ∨
      SeesOther ((completionProtocol calls).exec ((completionProtocol calls).init db)
        (events ++ [event])) p := by
  constructor
  · rintro ⟨before, after, split, sees⟩
    rcases List.eq_nil_or_concat after with rfl | ⟨init, final, rfl⟩
    · rw [List.append_nil] at split
      exact .inr (split ▸ sees)
    · rw [List.concat_eq_append, ← List.append_assoc] at split
      exact .inl ⟨before, init, (List.append_inj' split rfl).1, sees⟩
  · rintro (⟨before, after, rfl, sees⟩ | sees)
    · exact ⟨before, after ++ [event], List.append_assoc .., sees⟩
    · exact ⟨events ++ [event], [], (List.append_nil _).symm, sees⟩

theorem not_seesOther_init : ¬ SeesOther ((completionProtocol calls).init db) p := by
  rintro ⟨⟨reply, h⟩, -⟩
  cases h

theorem rolling_init (last : LastTasks db orderId calls executionId) :
    Rolling db orderId calls executionId ((completionProtocol calls).init db)
      (CountsAfterOther db calls []) := by
  have uncommitted : ∀ q, ¬ Committed ((completionProtocol calls).init db) q := by
    rintro q ⟨reply, h⟩
    cases h
  have blind : ∀ q, ¬ CountsAfterOther db calls [] q := by
    rintro q ⟨before, after, split, sees⟩
    rw [(List.append_eq_nil_iff.mp split.symm).1] at sees
    exact not_seesOther_init sees
  refine ⟨fun q w hw => ?_, ?_, fun q _ => last.unanswered q, fun q phase running => ?_⟩
  · cases hw
  · exact last.progress.of_iff (fun q => iff_of_false (uncommitted q) id)
      (fun q => iff_of_false (uncommitted q) id)
      (iff_of_false (fun closed => uncommitted _ closed.choose_spec.1) id)
  · cases running
    exact ⟨rfl, iff_of_false (blind q) (uncommitted (!q))⟩

theorem rolling_exec (last : LastTasks db orderId calls executionId) (events : List (Event Bool)) :
    Rolling db orderId calls executionId
      ((completionProtocol calls).exec ((completionProtocol calls).init db) events)
      (CountsAfterOther db calls events) := by
  induction events using List.reverseRecOn with
  | nil => exact rolling_init last
  | append_singleton events event ih =>
    have seen : CountsAfterOther db calls (events ++ [event]) = fun q =>
        CountsAfterOther db calls events q ∨ SeesOther ((completionProtocol calls).exec
          ((completionProtocol calls).init db) (events ++ [event])) q :=
      funext fun q => propext countsAfterOther_append
    have still : ∀ {σ' : CompletionServer},
        Rolling db orderId calls executionId σ' (CountsAfterOther db calls events) →
        Rolling db orderId calls executionId σ'
          (fun q => CountsAfterOther db calls events q ∨ SeesOther σ' q) := by
      intro σ' rolling
      have same : (fun q => CountsAfterOther db calls events q ∨ SeesOther σ' q) =
          CountsAfterOther db calls events :=
        funext fun q => propext ⟨fun h => h.elim id rolling.sees, .inl⟩
      rw [same]
      exact rolling
    rw [seen, exec_append]
    generalize (completionProtocol calls).exec ((completionProtocol calls).init db) events = σ at ih
    have moves := step_moves (completionProtocol calls) σ event
    change Rolling db orderId calls executionId ((completionProtocol calls).step σ event)
      (fun q => _ ∨ SeesOther ((completionProtocol calls).step σ event) q)
    generalize (completionProtocol calls).step σ event = σ' at moves
    cases moves with
    | same => exact still ih
    | advanced s phase next locks writes running acts free =>
      exact still (ih.advance last running acts)
    | committed s phase reply running acts =>
      cases ih.commits running acts
      exact ih.commit last running rfl
    | raised s phase fault running acts | killed s phase running =>
      exact still (ih.abandon running (by simp))

/-- When both calls commit, the order is completed exactly when one of them counts the executions
after the other one has committed. -/
theorem order_completed_iff_countsAfterOther (last : LastTasks db orderId calls executionId)
    (events : List (Event Bool))
    (both : ∀ p, Committed
      ((completionProtocol calls).exec ((completionProtocol calls).init db) events) p) :
    (∃ order, ((completionProtocol calls).exec ((completionProtocol calls).init db)
        events).data.facts.productionOrders.find? orderId = some order ∧
        order.status = .completed) ↔
      ∃ p, CountsAfterOther db calls events p := by
  obtain ⟨order, found, closes, opens⟩ := (rolling_exec last events).data.order
  constructor
  · rintro ⟨order', found', completed⟩
    rw [found] at found'
    cases found'
    by_contra unseen
    rw [opens fun ⟨p, _, sees⟩ => unseen ⟨p, sees⟩] at completed
    cases completed
  · rintro ⟨p, sees⟩
    exact ⟨order, found, closes ⟨p, both p, sees⟩⟩

def samplePairMaster : MasterData :=
  { sampleMaster with workOrders := ⟨["WO-1", "WO-2"].map fun code =>
      ⟨code, 1, 10, 1, [⟨10, "EQ-1", "P-1"⟩], .released⟩⟩ }

def samplePairEnv : ExecutionEnv := ⟨0, samplePairMaster, .empty, fun _ => true⟩

def sampleReported (workOrderCode : String) (taskId : Nat) (reportId : Code) :
    List ExecutionOperation :=
  [.dispatchWorkOrder workOrderCode (sampleAction (sampleKey "K-3")),
    .startSetup taskId (sampleAction (sampleKey "K-4")),
    .completeSetup taskId ⟨(sampleKey "K-5"),
      sampleEvidence.evidenceReference, []⟩,
    .startTask taskId (sampleAction (sampleKey "K-6")),
    .reportQuantity taskId ⟨reportId, 10, 0, 0, sampleEvidence.evidenceReference, 0,
      by decide +kernel, by decide +kernel, by decide +kernel, by decide +kernel⟩]

def samplePair : List ExecutionCall :=
  ([sampleProductionOrder 19,
    .attachWorkOrder "PO-1" "WO-1" (sampleAction (sampleKey "K-1")),
    .attachWorkOrder "PO-1" "WO-2" (sampleAction (sampleKey "K-1")),
    .releaseProductionOrder "PO-1" (sampleAction (sampleKey "K-2"))] ++
    sampleReported "WO-1" 1 (sampleCode "QR-1") ++
    sampleReported "WO-2" 2 (sampleCode "QR-2")).map fun operation =>
      ⟨samplePairEnv, "planner", operation⟩

def sampleCompletions (second : Bool) : CompletionCall :=
  ⟨samplePairEnv, if second then 2 else 1, ⟨(sampleKey "K-7"),
    ⟨"E-7", by decide +kernel, by decide +kernel⟩⟩, "operator"⟩

def sampleOverlap : List (Event Bool) :=
  List.replicate 10 (.run true) ++ List.replicate 14 (.run false) ++ List.replicate 4 (.run true)

def sampleInTurn : List (Event Bool) :=
  List.replicate 14 (.run true) ++ List.replicate 15 (.run false)

theorem lastTasks_samplePair : LastTasks (executionAuthority.run .empty samplePair) 1
    sampleCompletions (fun second => if second then 2 else 1) := by
  have unanswered : ∀ p, (executionAuthority.run .empty samplePair).idempotency.any
      (·.matchesKey (sampleCompletions p).key) = false := by
    decide +kernel
  have order : ((executionAuthority.run .empty samplePair).facts.productionOrders.find? 1).any
      (·.status = .inProgress) = true := by
    decide +kernel
  have task : ∀ p : Bool, ((executionAuthority.run .empty samplePair).facts.tasks.find?
      (if p then 2 else 1)).any (·.workOrderExecutionId = if p then 2 else 1) = true := by
    decide +kernel
  have execution : ∀ p : Bool, ((executionAuthority.run .empty samplePair).facts.executions.find?
      (if p then 2 else 1)).any (fun execution => execution.productionOrderId = 1 &&
        !execution.status.done && execution.workOrderId = if p then 2 else 1) = true := by
    decide +kernel
  have link : ∀ p : Bool, ((executionAuthority.run .empty samplePair).facts.links.find?
      (if p then 2 else 1)).any (fun link => link.productionOrderId = 1 &&
        link.workOrderId = if p then 2 else 1) = true := by
    decide +kernel
  have tasks : ∀ entry ∈ (executionAuthority.run .empty samplePair).facts.tasks.entries,
      entry.1 = entry.2.workOrderExecutionId := by
    decide +kernel
  have executions : ∀ entry ∈ (executionAuthority.run .empty samplePair).facts.executions.entries,
      entry.1 = entry.2.workOrderId := by
    decide +kernel
  have links : ∀ entry ∈ (executionAuthority.run .empty samplePair).facts.links.entries,
      ∃ p : Bool, entry.2.workOrderId = if p then 2 else 1 := by
    decide +kernel
  generalize executionAuthority.run .empty samplePair = db at *
  refine ⟨by decide, by simpa using (Option.any_eq_true _ _).mp order,
    fun p => by simpa [sampleCompletions] using (Option.any_eq_true _ _).mp (task p), ?_,
    fun p => ?_, ?_, unanswered⟩
  · intro p id task found ofExecution other
    have own := tasks (id, task) (Table.mem_entries.mpr found)
    exact absurd (own.trans ofExecution) other
  · obtain ⟨row, found, meets⟩ := (Option.any_eq_true _ _).mp (execution p)
    obtain ⟨link, attached, of⟩ := (Option.any_eq_true _ _).mp (link p)
    simp only [Bool.and_eq_true, decide_eq_true_eq, Bool.not_eq_true'] at meets of
    exact ⟨row, found, meets.1.1, meets.1.2, _, link, attached, of.1, of.2.trans meets.2.symm⟩
  · intro linkId link attached ofOrder
    obtain ⟨p, ofWorkOrder⟩ := links (linkId, link) (Table.mem_entries.mpr attached)
    obtain ⟨row, found, meets⟩ := (Option.any_eq_true _ _).mp (execution p)
    simp only [Bool.and_eq_true, decide_eq_true_eq] at meets
    refine ⟨⟨_, row, found, meets.2.trans ofWorkOrder.symm⟩, ?_⟩
    intro id other found' same apart
    have own := executions (id, other) (Table.mem_entries.mpr found')
    exact absurd (own.trans (same.trans ofWorkOrder)) (apart p)

/-- The first call commits and the second one counts the executions afterwards. -/
theorem order_completed_iff_countsAfterOther_in_turn :
    (∃ order, ((completionProtocol sampleCompletions).exec
        ((completionProtocol sampleCompletions).init (executionAuthority.run .empty samplePair))
        sampleInTurn).data.facts.productionOrders.find? 1 = some order ∧
        order.status = .completed) ↔
      ∃ p, CountsAfterOther (executionAuthority.run .empty samplePair) sampleCompletions
        sampleInTurn p :=
  order_completed_iff_countsAfterOther lastTasks_samplePair sampleInTurn fun p =>
    isCommitted_iff.mp (by revert p; decide +kernel)

/-- Neither count sees the execution that the other call has completed, and the order stays in
progress. -/
theorem complete_task_loses_completion : ¬ ∀ (before : List ExecutionCall) (orderId : Nat)
    (calls : Bool → CompletionCall) (executionId : Bool → Nat) (events : List (Event Bool)),
    LastTasks (executionAuthority.run .empty before) orderId calls executionId →
    (∀ p, Committed ((completionProtocol calls).exec
      ((completionProtocol calls).init (executionAuthority.run .empty before)) events) p) →
    ∃ order, ((completionProtocol calls).exec
        ((completionProtocol calls).init (executionAuthority.run .empty before))
        events).data.facts.productionOrders.find? orderId = some order ∧
      order.status = .completed := by
  intro h
  have both : ∀ p, (((completionProtocol sampleCompletions).exec
      ((completionProtocol sampleCompletions).init (executionAuthority.run .empty samplePair))
      sampleOverlap).session p).isCommitted = true := by
    decide +kernel
  have stays : (((completionProtocol sampleCompletions).exec
      ((completionProtocol sampleCompletions).init (executionAuthority.run .empty samplePair))
      sampleOverlap).data.facts.productionOrders.find? 1).map (·.status) = some .inProgress := by
    decide +kernel
  obtain ⟨order, found, completed⟩ := h samplePair 1 sampleCompletions _ sampleOverlap
    lastTasks_samplePair fun p => isCommitted_iff.mp (both p)
  rw [found, Option.map_some, completed] at stays
  cases stays

end MiniOgas
