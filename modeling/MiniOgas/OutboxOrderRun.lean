import MiniOgas.OutboxFencing

namespace MiniOgas

section OutboxOrder

open ReadCommitted Serial

def OutboxMessage.sameAggregate (row row' : OutboxMessage) : Prop :=
  row.aggregateType = row'.aggregateType ∧ row.aggregateId = row'.aggregateId

instance (row row' : OutboxMessage) : Decidable (row.sameAggregate row') :=
  inferInstanceAs (Decidable (_ ∧ _))

def punctual (lease : Int) (s : Outbox) : OutboxStep → Bool
  | .record w =>
    match s.workers w with
    | .answered claim _ _ => decide (s.now ≤ claim.claimedAt + max 1 lease * second)
    | _ => true
  | .enqueue envelope availableAt createdAt =>
    s.messages.keys.all fun id => (s.messages.row id).all fun x =>
      id = envelope.messageId ||
        !decide (x.committed.sameAggregate (envelope.row availableAt createdAt)) ||
        precedes id x.committed envelope.messageId (envelope.row availableAt createdAt)
  | _ => true

/-- A message is there, and each earlier one of its aggregate is published or in the
dead-letter queue. -/
def Cleared (s : Outbox) (id : String) : Prop :=
  ∃ x, s.messages.row id = some x ∧ ∀ id' x', s.messages.row id' = some x' →
    precedes id' x'.committed id x.committed = true → x'.committed.status.unfinished = false

/-- A version of the message is in status `publishing`. -/
def Outbox.Publishing (s : Outbox) (id : String) : Prop :=
  ∃ x, s.messages.row id = some x ∧ (x.committed.status = .publishing ∨
    ∃ w draft, x.draft = some (w, draft) ∧ draft.status = .publishing)

def Outbox.Chosen (s : Outbox) (id : String) : Prop :=
  s.Publishing id ∨ ∃ w, id ∈ (s.workers w).messageIds

structure LiveClaim (claim : Claim) (x : Version Nat OutboxMessage) : Prop where
  undrafted : x.draft = none
  status : x.committed.status = .publishing
  turn : x.committed.attempts = claim.turn
  claimedAt : x.committed.claimedAt = some claim.claimedAt

def Worker.begun : Worker → Option Timestamp
  | .resetting begun .. | .taking begun .. => some begun
  | .idle | .publishing _ | .answered .. => none

structure OutboxOrdered (lease : Int) (s : Outbox) : Prop where
  begun : ∀ w, ∀ begun ∈ (s.workers w).begun, begun ≤ s.now
  cleared : ∀ id, s.Chosen id → Cleared s id
  live : ∀ w claim x, claim ∈ (s.workers w).claims → (s.workers w).claiming = false →
    s.messages.row claim.messageId = some x →
    s.now ≤ claim.claimedAt + max 1 lease * second → LiveClaim claim x

/-- No later message of a run comes before an earlier one of its aggregate. -/
def OrderKept (s s' : Outbox) : Prop :=
  ∀ id x, s.messages.row id = some x → ∃ y, s'.messages.row id = some y ∧
    y.committed.place = x.committed.place ∧ ∀ id' y', s'.messages.row id' = some y' →
      precedes id' y'.committed id y.committed = true →
        ∃ x', s.messages.row id' = some x' ∧ x'.committed.place = y'.committed.place

variable {lease : Int} {s : Outbox} {w : Nat} {id id' : String}
  {x : Version Nat OutboxMessage} {draft row row' : OutboxMessage}
  {x' : Version Nat OutboxMessage}

theorem precedes_congr {a a' b b' : OutboxMessage} (h : a.place = b.place)
    (h' : a'.place = b'.place) : precedes id a id' a' = precedes id b id' b' := by
  simp only [OutboxMessage.place, Prod.mk.injEq] at h h'
  simp [precedes, h, h']

theorem precedes_asymm (h : precedes id row id' row' = true) :
    precedes id' row' id row = false := by
  simp only [precedes, Bool.and_eq_true, Bool.or_eq_true, decide_eq_true_eq] at h
  obtain ⟨⟨-, -⟩, h⟩ := h
  simp only [precedes, Bool.and_eq_false_iff, Bool.or_eq_false_iff, decide_eq_false_iff_not]
  refine .inr ⟨?_, ?_⟩
  · rcases h with before | ⟨same, -⟩
    · exact not_lt.mpr (le_of_lt before)
    · rw [same]
      exact lt_irrefl _
  · rcases h with before | ⟨same, before⟩
    · exact .inl fun same => absurd before (by rw [same]; exact lt_irrefl _)
    · exact .inr (String.lt_asymm before)

theorem precedes_total (same : row.sameAggregate row') (other : id ≠ id') :
    precedes id row id' row' = true ∨ precedes id' row' id row = true := by
  obtain ⟨type, aggregate⟩ := same
  simp only [precedes, type, aggregate, decide_true, Bool.true_and, Bool.or_eq_true,
    Bool.and_eq_true, decide_eq_true_eq]
  rcases lt_trichotomy row.createdAt row'.createdAt with before | same | after
  · exact .inl (.inl before)
  · by_cases before : id < id'
    · exact .inl (.inr ⟨same, before⟩)
    · refine .inr (.inr ⟨same.symm, String.not_le.mp fun le => ?_⟩)
      exact other (String.le_antisymm le (String.not_lt.mp before))
  · exact .inr (.inl after)

theorem Cleared.apart (sound : OutboxSound s) (h : Cleared s id) (publishing : s.Publishing id')
    (found : s.messages.row id = some x) (found' : s.messages.row id' = some x') :
    precedes id' x'.committed id x.committed = false := by
  obtain ⟨y, hy, cleared⟩ := h
  rw [found] at hy
  cases hy
  obtain ⟨y', hy', status⟩ := publishing
  rw [found'] at hy'
  cases hy'
  by_contra before
  have finished := cleared id' x' found' (by simpa using before)
  rcases status with status | ⟨w, draft, hd, -⟩
  · rw [status] at finished
    cases finished
  · rw [(sound.drafted id' x' w draft found' hd).2.unfinished] at finished
    cases finished

theorem OutboxOrdered.alone (sound : OutboxSound s) (ordered : OutboxOrdered lease s)
    (publishing : s.Publishing id) (publishing' : s.Publishing id')
    (found : s.messages.row id = some x) (found' : s.messages.row id' = some x')
    (same : x.committed.sameAggregate x'.committed) : id = id' := by
  by_contra other
  have apart := (ordered.cleared id (.inl publishing)).apart sound publishing' found found'
  have apart' := (ordered.cleared id' (.inl publishing')).apart sound publishing found' found
  rcases precedes_total same other with before | before
  · rw [apart'] at before
    cases before
  · rw [apart] at before
    cases before

theorem cleared_of_isCandidate (sound : OutboxSound s) {now : Timestamp}
    (h : s.isCandidate w now id = true) : Cleared s id := by
  obtain ⟨row, hrow, h⟩ := (Option.any_eq_true _ _).mp h
  obtain ⟨x, found, rfl⟩ := Option.map_eq_some_iff.mp hrow
  simp only [Bool.and_eq_true, decide_eq_true_eq, Bool.not_eq_true', List.any_eq_false] at h
  obtain ⟨⟨pending, -⟩, clear⟩ := h
  have place := (sound.view found w (by rw [pending]; rfl)).2.1
  refine ⟨x, found, ?_⟩
  intro id' x' found' before
  by_contra unfinished
  have unfinished : x'.committed.status.unfinished = true := by simpa using unfinished
  have key : id' ∈ s.messages.keys := by
    rw [sound.listed, found']
    rfl
  refine clear id' key ((Option.any_eq_true _ _).mpr ⟨x'.view w, ?_, ?_⟩)
  · simp [Relation.read, found']
  · rcases x'.view_cases w with hd | ⟨same, -⟩
    · have draftOf := (sound.drafted id' x' w _ found' hd).2
      have open' : (x'.view w).status.unfinished = true := by
        rcases draftOf.step with ⟨status, -⟩ | ⟨status, -⟩ <;> rw [status] <;> rfl
      rw [open', precedes_congr draftOf.place place, before]
      rfl
    · rw [same, unfinished, precedes_congr rfl place, before]
      rfl

theorem candidates_isCandidate {limit : Nat} {now : Timestamp}
    (h : id ∈ (s.candidates w limit now).map (·.messageId)) : s.isCandidate w now id = true := by
  obtain ⟨candidate, hcandidate, rfl⟩ := List.mem_map.mp h
  obtain ⟨id, hid, hcandidate⟩ := List.mem_filterMap.mp hcandidate
  have listed := (List.perm_insertionSort _ _).mem_iff.mp (List.mem_of_mem_take hid)
  obtain ⟨row, -, rfl⟩ := Option.map_eq_some_iff.mp hcandidate
  exact (List.mem_filter.mp listed).2

end OutboxOrder

open ReadCommitted Serial

variable {lease : Int} {s s' : Outbox} {w : Nat} {id id' : String}
  {x y : Version Nat OutboxMessage} {row : OutboxMessage} {step : OutboxStep}

theorem punctual_record {claim : Claim} {outcome : PublishOutcome} {claims : List Claim}
    (hpunctual : punctual lease s (.record w) = true)
    (phase : s.workers w = .answered claim outcome claims) :
    s.now ≤ claim.claimedAt + max 1 lease * second := by
  simpa [punctual, phase] using hpunctual

theorem OutboxOrdered.timely (ordered : OutboxOrdered lease s)
    (hpunctual : punctual lease s step = true) : timely s step = true := by
  unfold MiniOgas.timely
  split
  next w =>
    split
    next claim outcome claims phase =>
      cases found : s.messages.row claim.messageId with
      | none => rfl
      | some x =>
        have live := ordered.live w claim x (by rw [phase]; exact List.mem_cons_self)
          (by rw [phase]; rfl) found (punctual_record hpunctual phase)
        simp [live.turn]
    next => rfl
  next => rfl

theorem RowMove.place (sound : OutboxSound s) (found : s.messages.row id = some x)
    (move : RowMove s step id x row) : row.place = x.committed.place := by
  cases move with
  | same => rfl
  | drafted hd => exact (sound.drafted id x _ row found hd).2.place
  | marked => exact mark_place _ _ _ _

theorem row_of_none (move : OutboxMove lease s step s') (absent : s.messages.row id = none)
    (hy : s'.messages.row id = some y) :
    ∃ envelope availableAt createdAt, step = .enqueue envelope availableAt createdAt ∧
      id = envelope.messageId ∧ y.committed = envelope.row availableAt createdAt := by
  cases move with
  | @enqueued envelope availableAt createdAt fresh =>
    rw [Relation.row_insert fresh] at hy
    split at hy
    next own =>
      cases hy
      exact ⟨envelope, availableAt, createdAt, rfl, own, rfl⟩
    next => simp [absent] at hy
  | resetOne phase found | taken phase found =>
    change (s.messages.write _ _ _).row id = some y at hy
    rw [Relation.row_write found, if_neg (by rintro rfl; rw [absent] at found; cases found),
      absent] at hy
    cases hy
  | @recorded w _ _ _ _ phase found =>
    change ((s.messages.write w _ _).commit w).row id = some y at hy
    simp only [Relation.commit, Relation.row_write found] at hy
    rw [if_neg (by rintro rfl; rw [absent] at found; cases found), absent] at hy
    cases hy
  | committed | unrecorded | abandoned =>
    simp [Outbox.setWorker, Relation.commit, Relation.rollback, absent] at hy
  | _ =>
    rw [show s.messages.row id = some y from hy] at absent
    cases absent

theorem OrderKept.move (sound : OutboxSound s) (hpunctual : punctual lease s step = true)
    (move : OutboxMove lease s step s') : OrderKept s s' := by
  intro id x found
  obtain ⟨y, hy, rowMove⟩ := row_move sound move found
  refine ⟨y, hy, rowMove.place sound found, ?_⟩
  intro id' y' hy' before
  cases found' : s.messages.row id' with
  | some x' =>
    obtain ⟨z, hz, rowMove'⟩ := row_move sound move found'
    rw [hy'] at hz
    cases hz
    exact ⟨x', rfl, (rowMove'.place sound found').symm⟩
  | none =>
    obtain ⟨envelope, availableAt, createdAt, rfl, rfl, row⟩ := row_of_none move found' hy'
    have other : id ≠ envelope.messageId := by
      rintro rfl
      rw [found] at found'
      cases found'
    have key : id ∈ s.messages.keys := by
      rw [sound.listed, found]
      rfl
    have after := List.all_eq_true.mp hpunctual id key
    rw [found] at after
    rw [row, precedes_congr rfl (rowMove.place sound found)] at before
    have same : x.committed.sameAggregate (envelope.row availableAt createdAt) := by
      simp only [precedes, Bool.and_eq_true, decide_eq_true_eq] at before
      exact ⟨before.1.1.symm, before.1.2.symm⟩
    simp only [Option.all_some, other, same, decide_true, decide_false, Bool.not_true,
      Bool.false_or] at after
    rw [precedes_asymm after] at before
    cases before

theorem OrderKept.refl (s : Outbox) : OrderKept s s :=
  fun _ x found => ⟨x, found, rfl, fun _ y' hy' _ => ⟨y', hy', rfl⟩⟩

theorem OrderKept.trans {a b c : Outbox} (first : OrderKept a b) (second : OrderKept b c) :
    OrderKept a c := by
  intro id x found
  obtain ⟨y, hy, place, earlier⟩ := first id x found
  obtain ⟨z, hz, place', earlier'⟩ := second id y hy
  refine ⟨z, hz, place'.trans place, ?_⟩
  intro id' z' hz' before
  obtain ⟨y', hy', same⟩ := earlier' id' z' hz' before
  rw [← precedes_congr same place'.symm] at before
  obtain ⟨x', hx', same'⟩ := earlier id' y' hy' before
  exact ⟨x', hx', same'.trans same⟩

theorem Cleared.kept (cleared : Cleared s id) (finished : FinishedKept s s')
    (order : OrderKept s s') : Cleared s' id := by
  obtain ⟨x, found, cleared⟩ := cleared
  obtain ⟨y, hy, place, earlier⟩ := order id x found
  refine ⟨y, hy, ?_⟩
  intro id' y' hy' before
  obtain ⟨x', found', same⟩ := earlier id' y' hy' before
  rw [← precedes_congr same place.symm] at before
  have done := cleared id' x' found' before
  obtain ⟨z, hz, kept⟩ := finished id' x' found' done
  rw [hy'] at hz
  cases hz
  rw [kept]
  exact done

section OutboxOrderRun

open ReadCommitted Serial

variable {lease : Int} {s s' : Outbox} {w : Nat} {worker : Worker} {id : String}
  {x y : Version Nat OutboxMessage} {draft row : OutboxMessage} {step : OutboxStep}
  {messages : Relation String Nat OutboxMessage} {claim : Claim}

theorem chosen_setWorker
    (publishing : ∀ j, Outbox.Publishing { s with messages } j →
      s.Chosen j ∨ ∃ v now, s.isCandidate v now j = true)
    (ids : ∀ j ∈ worker.messageIds,
      j ∈ (s.workers w).messageIds ∨ ∃ v now, s.isCandidate v now j = true)
    (chosen : ({ s with messages }.setWorker w worker).Chosen id) :
    s.Chosen id ∨ ∃ v now, s.isCandidate v now id = true := by
  rcases chosen with chosen | ⟨v, chosen⟩
  · exact publishing id chosen
  · rw [workers_setWorker] at chosen
    split at chosen
    next =>
      rcases ids id chosen with old | new
      · exact .inl (.inr ⟨w, old⟩)
      · exact .inr new
    next => exact .inl (.inr ⟨v, chosen⟩)

theorem publishing_write (found : s.messages.row id = some x) (j : String)
    (publishing : Outbox.Publishing { s with messages := s.messages.write w id draft } j) :
    s.Publishing j ∨ j = id ∧ draft.status = .publishing := by
  obtain ⟨y, hy, status⟩ := publishing
  rw [Relation.row_write found] at hy
  split at hy
  next own =>
    cases hy
    rcases status with status | ⟨v, draft', hd, status⟩
    · exact .inl ⟨x, by rw [own, found], .inl status⟩
    · obtain ⟨rfl, rfl⟩ := Prod.mk.inj (Option.some.inj hd)
      exact .inr ⟨own, status⟩
  next => exact .inl ⟨y, hy, status⟩

theorem publishing_commit (j : String)
    (publishing : Outbox.Publishing { s with messages := s.messages.commit w } j) :
    s.Publishing j := by
  obtain ⟨y, hy, status⟩ := publishing
  obtain ⟨x, found, rfl⟩ := Option.map_eq_some_iff.mp hy
  rcases x.commit_cases w with ⟨draft, hd, commit⟩ | ⟨commit, -⟩
  · rw [commit] at status
    rcases status with status | ⟨v, draft', hd', -⟩
    · exact ⟨x, found, .inr ⟨w, draft, hd, status⟩⟩
    · cases hd'
  · rw [commit] at status
    exact ⟨x, found, status⟩

theorem publishing_rollback (j : String)
    (publishing : Outbox.Publishing { s with messages := s.messages.rollback w } j) :
    s.Publishing j := by
  obtain ⟨y, hy, status⟩ := publishing
  obtain ⟨x, found, rfl⟩ := Option.map_eq_some_iff.mp hy
  refine ⟨x, found, ?_⟩
  rcases status with status | ⟨v, draft, hd, status⟩
  · exact .inl (by simpa using status)
  · rcases x.view_cases w with own | ⟨-, other⟩
    · simp [Version.rollback_own own] at hd
    · rw [Version.rollback_other other] at hd
      exact .inr ⟨v, draft, hd, status⟩

theorem mark_status (claim : Claim) (outcome : PublishOutcome) (now : Timestamp)
    (row : OutboxMessage) : (claim.mark outcome now row).status ≠ .publishing := by
  unfold Claim.mark
  split
  · exact nofun
  · exact nofun
  · split <;> exact nofun

theorem chosen_move (move : OutboxMove lease s step s')
    (chosen : s'.Chosen id) : s.Chosen id ∨ ∃ w now, s.isCandidate w now id = true := by
  have same : ∀ j, Outbox.Publishing s j → s.Chosen j ∨ ∃ w now, s.isCandidate w now j = true :=
    fun j publishing => .inl (.inl publishing)
  cases move with
  | tick | duplicate => exact .inl chosen
  | @enqueued envelope availableAt createdAt fresh =>
    rcases chosen with ⟨y, hy, status⟩ | held
    · refine .inl (.inl ⟨y, ?_, status⟩)
      rw [Relation.row_insert fresh] at hy
      split at hy
      next =>
        cases hy
        rcases status with status | ⟨_, _, hd, -⟩
        · cases status
        · cases hd
      next => exact hy
    · exact .inl (.inr held)
  | begun idle | resetNone phase | finished =>
    exact chosen_setWorker same (fun j h => by cases h) chosen
  | resetOne phase found =>
    refine chosen_setWorker (fun j publishing => ?_) (fun j h => by cases h) chosen
    rcases publishing_write found j publishing with old | ⟨-, status⟩
    · exact same j old
    · cases status
  | @selected w begun token limit phase =>
    refine chosen_setWorker same (fun j hj => .inr ⟨w, begun, ?_⟩) chosen
    exact candidates_isCandidate hj
  | @passedOver w _ _ candidate _ _ phase =>
    refine chosen_setWorker same (fun j hj => .inl ?_) chosen
    rw [phase]
    simp only [Worker.messageIds, Worker.claims, Worker.candidates, List.map_cons,
      List.mem_append, List.mem_cons] at hj ⊢
    rcases hj with held | later
    · exact .inl held
    · exact .inr (.inr later)
  | @taken w _ _ candidate _ _ x phase found =>
    have listed : candidate.messageId ∈ (s.workers w).messageIds := by
      rw [phase]
      simp [Worker.messageIds, Worker.candidates]
    refine chosen_setWorker (fun j publishing => ?_) (fun j hj => .inl ?_) chosen
    · rcases publishing_write found j publishing with old | ⟨rfl, -⟩
      · exact same j old
      · exact .inl (.inr ⟨w, listed⟩)
    · rw [phase]
      simp only [Worker.messageIds, Worker.claims, Worker.candidates, Candidate.claim,
        List.map_append, List.map_cons, List.map_nil, List.mem_append, List.mem_cons,
        List.not_mem_nil, or_false] at hj ⊢
      tauto
  | committed phase =>
    refine chosen_setWorker (fun j publishing => same j (publishing_commit j publishing))
      (fun j hj => .inl ?_) chosen
    rw [phase]
    exact hj
  | answered phase =>
    refine chosen_setWorker same (fun j hj => .inl ?_) chosen
    rw [phase]
    exact hj
  | unrecorded phase =>
    refine chosen_setWorker (fun j publishing => same j (publishing_commit j publishing))
      (fun j hj => .inl ?_) chosen
    rw [phase]
    exact List.mem_cons_of_mem _ hj
  | recorded phase found =>
    refine chosen_setWorker (fun j publishing => ?_) (fun j hj => .inl ?_) chosen
    · rcases publishing_write found j (publishing_commit j publishing) with old | ⟨-, status⟩
      · exact same j old
      · exact absurd status (mark_status _ _ _ _)
    · rw [phase]
      exact List.mem_cons_of_mem _ hj
  | abandoned =>
    exact chosen_setWorker (fun j publishing => same j (publishing_rollback j publishing))
      (fun j h => by cases h) chosen

theorem now_le (move : OutboxMove lease s step s') : s.now ≤ s'.now := by
  cases move with
  | tick later => exact later
  | _ => exact Int.le_refl _

theorem begun_move (move : OutboxMove lease s step s')
    (begun : ∀ w, ∀ begun ∈ (s.workers w).begun, begun ≤ s.now) (w : Nat) :
    ∀ begun ∈ (s'.workers w).begun, begun ≤ s'.now := by
  have set : ∀ (messages : Relation String Nat OutboxMessage) (v : Nat) (worker : Worker),
      (∀ b ∈ worker.begun, b ∈ (s.workers v).begun) →
        ∀ b ∈ (({ s with messages }.setWorker v worker).workers w).begun, b ≤ s.now := by
    intro messages v worker kept b hb
    rw [workers_setWorker] at hb
    split at hb
    next => exact begun v b (kept b hb)
    next => exact begun w b hb
  cases move with
  | tick later => exact fun b hb => Int.le_trans (begun w b hb) later
  | duplicate | enqueued => exact begun w
  | @begun v _ _ idle =>
    intro b hb
    rw [workers_setWorker] at hb
    split at hb
    next =>
      cases hb
      exact Int.le_refl _
    next => exact begun w b hb
  | resetNone phase | resetOne phase | selected phase | passedOver phase | taken phase =>
    exact set _ _ _ (fun b hb => by rw [phase]; exact hb)
  | committed | answered | unrecorded | recorded | finished | abandoned =>
    exact set _ _ _ (nofun)

theorem live_row (sound : OutboxSound s) (ordered : OutboxOrdered lease s)
    (hpunctual : punctual lease s step = true) (move : OutboxMove lease s step s')
    (hclaim : claim ∈ (s.workers w).claims) (still : claim ∈ (s'.workers w).claims)
    (found : s.messages.row claim.messageId = some x) (live : LiveClaim claim x)
    (inTime : s.now ≤ claim.claimedAt + max 1 lease * second) :
    s'.messages.row claim.messageId = some x := by
  have view : ∀ v, x.view v = x.committed := fun v =>
    Version.view_other fun draft hd => by rw [live.undrafted] at hd; cases hd
  cases move with
  | enqueued fresh =>
    rw [Relation.row_insert fresh, if_neg (by intro same; rw [same, fresh] at found; cases found),
      found]
  | @resetOne v begun _ _ _ _ _ phase found' stale =>
    change (s.messages.write _ _ _).row _ = some x
    rw [Relation.row_write found']
    split
    next same =>
      rw [same, found'] at found
      cases found
      rw [view] at stale
      have early := ordered.begun v begun (by rw [phase]; rfl)
      simp only [OutboxMessage.isStale, live.claimedAt, Option.any_some, Bool.and_eq_true,
        decide_eq_true_eq] at stale
      have before : claim.claimedAt < begun - max 1 lease * second := stale.2
      exact absurd (lt_of_lt_of_le before (Int.sub_le_sub_right early _))
        (not_lt.mpr (Int.sub_right_le_of_le_add inTime))
    next => exact found
  | taken phase found' pending =>
    change (s.messages.write _ _ _).row _ = some x
    rw [Relation.row_write found']
    split
    next same =>
      rw [same, found'] at found
      cases found
      rw [view, live.status] at pending
      cases pending
    next => exact found
  | @committed v _ _ _ phase | @unrecorded v _ _ _ phase =>
    change (s.messages.commit v).row _ = some x
    simp [Relation.commit, found, Version.commit, live.undrafted]
  | @recorded v claim' outcome claims x' phase found' =>
    have closed : (s.workers v).claiming = false := by rw [phase]; rfl
    change ((s.messages.write v _ _).commit v).row _ = some x
    rw [Relation.row_write_commit (sound.undrafted closed) found']
    split
    next same =>
      have member : claim' ∈ (s.workers v).claims := by rw [phase]; exact List.mem_cons_self
      rw [same] at found
      have live' := ordered.live v claim' x member closed found (punctual_record hpunctual phase)
      have own : w = v := sound.distinct w v claim claim' hclaim member same
        (live.turn.symm.trans live'.turn)
      subst own
      cases sound.eq_of_messageId hclaim member same
      have once := sound.once w
      rw [phase] at once
      simp only [Worker.messageIds, Worker.claims, List.map_cons, List.cons_append,
        List.nodup_cons, List.mem_append, not_or] at once
      rw [workers_setWorker, if_pos rfl] at still
      exact absurd (List.mem_map_of_mem still) once.1.1
    next => exact found
  | @abandoned v =>
    change (s.messages.rollback v).row _ = some x
    simp [Relation.rollback, found, Version.rollback, live.undrafted]
  | _ => exact found

theorem live_committed {begun : Timestamp} {token : Nat} {taken : List Claim}
    (sound : OutboxSound s) (phase : s.workers w = .taking begun token [] taken)
    (hclaim : claim ∈ taken) (hy : (s.messages.commit w).row claim.messageId = some y) :
    LiveClaim claim y := by
  obtain ⟨x, found, held⟩ := sound.held w claim (by rw [phase]; exact hclaim)
  obtain ⟨draft, hd, status, turn, claimedAt⟩ := held.drafted (by rw [phase]; rfl)
  simp only [Relation.commit, found, Option.map_some, Option.some.injEq] at hy
  rw [← hy, Version.commit_own hd]
  exact ⟨rfl, status, turn, claimedAt⟩

theorem live_move (sound : OutboxSound s) (ordered : OutboxOrdered lease s)
    (hpunctual : punctual lease s step = true) (move : OutboxMove lease s step s')
    (hclaim : claim ∈ (s'.workers w).claims) (closed : (s'.workers w).claiming = false)
    (hy : s'.messages.row claim.messageId = some y)
    (inTime : s'.now ≤ claim.claimedAt + max 1 lease * second) : LiveClaim claim y := by
  have before := claims_move move w closed claim hclaim
  obtain ⟨x, found, held⟩ := sound.held w claim before
  have early := Int.le_trans (now_le move) inTime
  cases claiming : (s.workers w).claiming with
  | false =>
    have live := ordered.live w claim x before claiming found early
    rw [live_row sound ordered hpunctual move before hclaim found live early] at hy
    cases hy
    exact live
  | true =>
    have stays : s'.workers w = s.workers w → LiveClaim claim y := by
      intro same
      rw [same, claiming] at closed
      cases closed
    cases move with
    | tick | duplicate | enqueued => exact stays rfl
    | committed phase =>
      rw [workers_setWorker] at hclaim stays
      split at hclaim
      next own =>
        exact live_committed sound phase hclaim hy
      next other => exact stays (if_neg other)
    | begun phase | resetNone phase | resetOne phase | selected phase | passedOver phase
    | taken phase =>
      rw [workers_setWorker] at closed stays
      split at closed
      next => cases closed
      next other => exact stays (if_neg other)
    | answered phase | unrecorded phase | recorded phase | finished phase =>
      rw [workers_setWorker] at stays
      refine stays (if_neg ?_)
      rintro rfl
      rw [phase] at claiming
      cases claiming
    | abandoned =>
      rw [workers_setWorker] at hclaim stays
      split at hclaim
      next => cases hclaim
      next other => exact stays (if_neg other)

structure OutboxInvariant (lease : Int) (s : Outbox) : Prop where
  sound : OutboxSound s
  lastOpen : LastClaimOpen s
  ordered : OutboxOrdered lease s

theorem OutboxInvariant.move (h : OutboxInvariant lease s)
    (hpunctual : punctual lease s step = true) (move : OutboxMove lease s step s') :
    OutboxInvariant lease s' := by
  have htimely := h.ordered.timely hpunctual
  have finished := FinishedKept.move h.sound h.lastOpen htimely move
  have order := OrderKept.move h.sound hpunctual move
  refine ⟨h.sound.move move, h.lastOpen.move h.sound htimely move, ?_, ?_, ?_⟩
  · exact begun_move move h.ordered.begun
  · intro id chosen
    rcases chosen_move move chosen with old | ⟨w, now, new⟩
    · exact (h.ordered.cleared id old).kept finished order
    · exact (cleared_of_isCandidate h.sound new).kept finished order
  · intro w claim y hclaim closed hy inTime
    exact live_move h.sound h.ordered hpunctual move hclaim closed hy inTime

end OutboxOrderRun

theorem lastClaimOpen_empty : LastClaimOpen .empty :=
  fun _ _ _ hclaim => by simp [Outbox.empty, Worker.claims] at hclaim

theorem lastClaim_move {s s' : Outbox} {step : OutboxStep} {u : Unit}
    (h : OutboxSound s ∧ LastClaimOpen s) (htimely : timely s step = true)
    (attempt : (outboxAuthority lease).attempt step s = .ok (u, s')) :
    OutboxSound s' ∧ LastClaimOpen s' :=
  ⟨h.1.move (outbox_move attempt), h.2.move h.1 htimely (outbox_move attempt)⟩

/-- In a run whose results are all timely, no worker changes the row of a message that was
claimed again, and finished messages stay what they are. -/
theorem fenced_along (lease : Int) (steps later : List OutboxStep)
    (htimely : (outboxAuthority lease).Along (fun s step => timely s step = true) .empty
      (steps ++ later)) :
    (outboxAuthority lease).Along (Fenced lease) .empty (steps ++ later) ∧
      FinishedKept ((outboxAuthority lease).run .empty steps)
        ((outboxAuthority lease).run .empty (steps ++ later)) := by
  have init : OutboxSound .empty ∧ LastClaimOpen .empty := ⟨outboxSound_empty, lastClaimOpen_empty⟩
  refine ⟨Authority.along_invariant lastClaim_move (fun h timely => fenced_of_timely h.1 timely)
    init htimely, ?_⟩
  obtain ⟨before, after⟩ := Authority.along_append.mp htimely
  rw [Authority.run_append]
  exact Authority.related_along (R := FinishedKept) lastClaim_move
    (fun s id x found _ => ⟨x, found, rfl⟩) FinishedKept.trans
    (fun h timely attempt => FinishedKept.move h.1 h.2 timely (outbox_move attempt))
    (Authority.invariant_along lastClaim_move init before) after

def sampleEnvelope (messageId nodeCode : String) : OutboxEnvelope :=
  ⟨messageId, "heartbeat", nodeCode, "1", "ogas.heartbeat", .null⟩

def sampleClaim (w stale : Nat) : List OutboxStep :=
  [.beginClaim w 50] ++ List.replicate stale (.resetNext w) ++
    [.selectCandidates w, .takeNext w, .commitClaim w]

def sampleInTime : List OutboxStep :=
  [.enqueue (sampleEnvelope "M-1" "N-1") 0 0] ++ sampleClaim 1 0 ++
    [.publish 1 (.failed "timeout"), .record 1, .finish 1]

theorem fenced_along_in_time :
    (outboxAuthority 30).Along (Fenced 30) .empty
        (sampleInTime ++
          ([.tick 2000000] ++ sampleClaim 2 0 ++ [.publish 2 .published, .record 2])) ∧
      FinishedKept ((outboxAuthority 30).run .empty sampleInTime)
        ((outboxAuthority 30).run .empty (sampleInTime ++
          ([.tick 2000000] ++ sampleClaim 2 0 ++ [.publish 2 .published, .record 2]))) :=
  fenced_along 30 _ _ (by decide +kernel)

def sampleReclaim : List OutboxStep :=
  [.enqueue (sampleEnvelope "M-1" "N-1") 0 0] ++ sampleClaim 1 0 ++
    [.publish 1 (.failed "timeout"), .tick 31000000] ++ sampleClaim 2 1

/-- The late failure of worker 1 puts the message that worker 2 holds back to `pending`. -/
theorem late_result_breaks_fencing :
    ¬ ∀ steps later, (outboxAuthority 30).Along (Fenced 30) .empty (steps ++ later) ∧
      FinishedKept ((outboxAuthority 30).run .empty steps)
        ((outboxAuthority 30).run .empty (steps ++ later)) := by
  intro h
  have fenced := (Authority.along_append.mp (h sampleReclaim [.record 1]).1).2.1
  generalize hs : (outboxAuthority 30).run .empty sampleReclaim = s at fenced
  have holds : (s.workers 1).claiming = false ∧
      ((s.workers 1).claims.map fun claim => (claim.messageId, claim.turn)) = [("M-1", 1)] := by
    rw [← hs]; decide +kernel
  have row : (s.messages.row "M-1").map (fun x => (x.committed.attempts, x.committed.status)) =
      some (2, .publishing) := by
    rw [← hs]; decide +kernel
  have after : (((outboxAuthority 30).serve s (.record 1)).messages.row "M-1").map
      (·.committed.status) = some .pending := by
    rw [← hs]; decide +kernel
  obtain ⟨closed, claims⟩ := holds
  obtain ⟨claim, hclaim, same⟩ := List.mem_map.mp (claims ▸ List.mem_singleton_self _)
  obtain ⟨own, turn⟩ := Prod.mk.inj same
  obtain ⟨x, found, same⟩ := Option.map_eq_some_iff.mp row
  obtain ⟨attempts, status⟩ := Prod.mk.inj same
  have kept := fenced 1 claim x rfl closed hclaim (by rw [own]; exact found)
    (by rw [attempts, turn]; decide)
  rw [own] at kept
  simp [kept, status] at after

/-- At most one message of an aggregate is in status `publishing`. -/
def Outbox.OnePublishing (s : Outbox) : Prop :=
  ∀ id id' x x', s.messages.row id = some x → s.messages.row id' = some x' →
    s.Publishing id → s.Publishing id' → x.committed.sameAggregate x'.committed → id = id'

/-- Whatever is about to be published comes after messages that are finished: each message
of its aggregate that comes before it at the end of a run. -/
def PublishedInOrder (s last : Outbox) : Prop :=
  ∀ w claim claims, s.workers w = .publishing (claim :: claims) →
    ∀ id x x', last.messages.row id = some x → last.messages.row claim.messageId = some x' →
      precedes id x.committed claim.messageId x'.committed = true →
        ∃ y, s.messages.row id = some y ∧
          (y.committed.status = .published ∨ y.committed.status = .deadLetter)

theorem outboxInvariant_empty : OutboxInvariant lease .empty := by
  refine ⟨outboxSound_empty, lastClaimOpen_empty, ?_, ?_, ?_⟩
  · intro w begun h
    simp [Outbox.empty, Worker.begun] at h
  · rintro id (⟨x, found, -⟩ | ⟨w, h⟩)
    · simp [Outbox.empty, Relation.empty] at found
    · simp [Outbox.empty, Worker.messageIds, Worker.claims, Worker.candidates] at h
  · intro w claim x h
    simp [Outbox.empty, Worker.claims] at h

theorem outboxInvariant_move {s s' : Outbox} {step : OutboxStep} {u : Unit}
    (h : OutboxInvariant lease s) (hpunctual : punctual lease s step = true)
    (attempt : (outboxAuthority lease).attempt step s = .ok (u, s')) : OutboxInvariant lease s' :=
  h.move hpunctual (outbox_move attempt)

theorem OutboxInvariant.publishedInOrder {s last : Outbox} (h : OutboxInvariant lease s)
    (order : OrderKept s last) : PublishedInOrder s last := by
  intro w claim claims phase id x x' found found' before
  have chosen : s.Chosen claim.messageId := by
    refine .inr ⟨w, ?_⟩
    rw [phase]
    exact List.mem_cons_self
  obtain ⟨y', hy', cleared⟩ := h.ordered.cleared _ chosen
  obtain ⟨z, hz, place, earlier⟩ := order _ y' hy'
  rw [found'] at hz
  cases hz
  obtain ⟨y, hy, same⟩ := earlier id x found before
  rw [← precedes_congr same place.symm] at before
  have finished := cleared id y hy before
  refine ⟨y, hy, ?_⟩
  cases status : y.committed.status with
  | pending | publishing =>
    rw [status] at finished
    cases finished
  | published => exact .inl rfl
  | deadLetter => exact .inr rfl

/-- In a run whose messages come in order and whose results are written before the leases
pass, an aggregate has one message in status `publishing` at most, and a message is published
after the earlier ones of its aggregate are finished. -/
theorem ordered_along (lease : Int) (steps later : List OutboxStep)
    (hpunctual : (outboxAuthority lease).Along (fun s step => punctual lease s step = true) .empty
      (steps ++ later)) :
    ((outboxAuthority lease).run .empty steps).OnePublishing ∧
      PublishedInOrder ((outboxAuthority lease).run .empty steps)
        ((outboxAuthority lease).run .empty (steps ++ later)) := by
  obtain ⟨before, after⟩ := Authority.along_append.mp hpunctual
  have invariant := Authority.invariant_along outboxInvariant_move outboxInvariant_empty before
  refine ⟨?_, ?_⟩
  · intro id id' x x' found found' publishing publishing' same
    exact invariant.ordered.alone invariant.sound publishing publishing' found found' same
  · rw [Authority.run_append]
    refine invariant.publishedInOrder ?_
    exact Authority.related_along (R := OrderKept) outboxInvariant_move OrderKept.refl
      OrderKept.trans
      (fun h hpunctual attempt => OrderKept.move h.sound hpunctual (outbox_move attempt))
      invariant after

def sampleInOrder : List OutboxStep :=
  [.enqueue (sampleEnvelope "M-1" "N-1") 0 0, .enqueue (sampleEnvelope "M-2" "N-1") 0 0] ++
    sampleClaim 1 0 ++ [.publish 1 .published, .record 1, .finish 1] ++ sampleClaim 2 0

theorem ordered_along_in_order :
    ((outboxAuthority 30).run .empty sampleInOrder).OnePublishing ∧
      PublishedInOrder ((outboxAuthority 30).run .empty sampleInOrder)
        ((outboxAuthority 30).run .empty (sampleInOrder ++ [.publish 2 .published, .record 2])) :=
  ordered_along 30 _ _ (by decide +kernel)

end MiniOgas
