import MiniOgas.OutboxSteps

namespace MiniOgas

open ReadCommitted Serial

inductive OutboxMove (lease : Int) (s : Outbox) : OutboxStep → Outbox → Prop
  | tick {now : Timestamp} (later : s.now ≤ now) : OutboxMove lease s (.tick now) { s with now }
  | duplicate {envelope : OutboxEnvelope} {availableAt createdAt : Timestamp} :
      OutboxMove lease s (.enqueue envelope availableAt createdAt) s
  | enqueued {envelope : OutboxEnvelope} {availableAt createdAt : Timestamp}
      (fresh : s.messages.row envelope.messageId = none) :
      OutboxMove lease s (.enqueue envelope availableAt createdAt)
        { s with
          messages := s.messages.insert envelope.messageId (envelope.row availableAt createdAt) }
  | begun {w limit : Nat} {targets : List String} (idle : s.workers w = .idle) :
      OutboxMove lease s (.beginClaim w limit) ({ s with nextToken := s.nextToken + 1 }.setWorker w
        (.resetting s.now s.nextToken limit targets))
  | resetNone {w : Nat} {begun : Timestamp} {token limit : Nat} {id : String}
      {targets : List String} (phase : s.workers w = .resetting begun token limit (id :: targets)) :
      OutboxMove lease s (.resetNext w) (s.setWorker w (.resetting begun token limit targets))
  | resetOne {w : Nat} {begun : Timestamp} {token limit : Nat} {id : String}
      {targets : List String} {x : Version Nat OutboxMessage}
      (phase : s.workers w = .resetting begun token limit (id :: targets))
      (found : s.messages.row id = some x)
      (stale : (x.view w).isStale (staleBefore lease begun) = true) (isFree : x.free w = true) :
      OutboxMove lease s (.resetNext w)
        ({ s with messages := s.messages.write w id (x.view w).reset }.setWorker w
          (.resetting begun token limit targets))
  | selected {w : Nat} {begun : Timestamp} {token limit : Nat}
      (phase : s.workers w = .resetting begun token limit []) :
      OutboxMove lease s (.selectCandidates w)
        (s.setWorker w (.taking begun token (s.candidates w limit begun) []))
  | passedOver {w : Nat} {begun : Timestamp} {token : Nat} {candidate : Candidate}
      {candidates : List Candidate} {taken : List Claim}
      (phase : s.workers w = .taking begun token (candidate :: candidates) taken) :
      OutboxMove lease s (.takeNext w) (s.setWorker w (.taking begun token candidates taken))
  | taken {w : Nat} {begun : Timestamp} {token : Nat} {candidate : Candidate}
      {candidates : List Candidate} {taken : List Claim} {x : Version Nat OutboxMessage}
      (phase : s.workers w = .taking begun token (candidate :: candidates) taken)
      (found : s.messages.row candidate.messageId = some x)
      (pending : (x.view w).status = .pending) (isFree : x.free w = true) :
      OutboxMove lease s (.takeNext w)
        ({ s with
            messages := s.messages.write w candidate.messageId ((x.view w).claim begun token)
          }.setWorker w (.taking begun token candidates
            (taken ++ [candidate.claim begun token ((x.view w).attempts + 1)])))
  | committed {w : Nat} {begun : Timestamp} {token : Nat} {taken : List Claim}
      (phase : s.workers w = .taking begun token [] taken) :
      OutboxMove lease s (.commitClaim w)
        ({ s with messages := s.messages.commit w }.setWorker w (.publishing taken))
  | answered {w : Nat} {claim : Claim} {outcome : PublishOutcome} {claims : List Claim}
      (phase : s.workers w = .publishing (claim :: claims)) :
      OutboxMove lease s (.publish w outcome) (s.setWorker w (.answered claim outcome claims))
  | unrecorded {w : Nat} {claim : Claim} {outcome : PublishOutcome} {claims : List Claim}
      (phase : s.workers w = .answered claim outcome claims) :
      OutboxMove lease s (.record w)
        ({ s with messages := s.messages.commit w }.setWorker w (.publishing claims))
  | recorded {w : Nat} {claim : Claim} {outcome : PublishOutcome} {claims : List Claim}
      {x : Version Nat OutboxMessage} (phase : s.workers w = .answered claim outcome claims)
      (found : s.messages.row claim.messageId = some x)
      (unpublished : (x.view w).status ≠ .published) (isFree : x.free w = true) :
      OutboxMove lease s (.record w)
        ({ s with
            messages := (s.messages.write w claim.messageId
              (claim.mark outcome s.now (x.view w))).commit w }.setWorker w (.publishing claims))
  | finished {w : Nat} (phase : s.workers w = .publishing []) :
      OutboxMove lease s (.finish w) (s.setWorker w .idle)
  | abandoned {w : Nat} :
      OutboxMove lease s (.abandon w)
        ({ s with messages := s.messages.rollback w }.setWorker w .idle)

variable {lease : Int} {s s' : Outbox} {w : Nat}

theorem enqueue_move (envelope : OutboxEnvelope) (availableAt createdAt : Timestamp) :
    OutboxMove lease s (.enqueue envelope availableAt createdAt)
      { s with
        messages :=
          s.messages.insert envelope.messageId (envelope.row availableAt createdAt) } := by
  cases h : s.messages.row envelope.messageId with
  | none => exact .enqueued h
  | some x =>
    rw [Relation.insert_of_some h]
    exact .duplicate

theorem resetNext_move (h : s.resetNext lease w = some s') :
    OutboxMove lease s (.resetNext w) s' := by
  unfold Outbox.resetNext at h
  split at h
  next begun token limit id targets phase =>
    obtain ⟨⟨changed, messages⟩, hupdate, h⟩ := Option.bind_eq_some_iff.mp h
    cases h
    rcases Relation.update_cases hupdate with ⟨-, rfl, -⟩ | ⟨-, x, found, stale, isFree, rfl⟩
    · exact .resetNone phase
    · exact .resetOne phase found stale isFree
  next => cases h

theorem takeNext_move (h : s.takeNext w = some s') : OutboxMove lease s (.takeNext w) s' := by
  unfold Outbox.takeNext at h
  split at h
  next begun token candidate candidates taken phase =>
    obtain ⟨⟨changed, messages⟩, hupdate, h⟩ := Option.bind_eq_some_iff.mp h
    cases h
    rcases Relation.update_cases hupdate with ⟨rfl, rfl, -⟩ | ⟨rfl, x, found, pending, isFree, rfl⟩
    · exact .passedOver phase
    · have turn : (((s.messages.write w candidate.messageId
          ((x.view w).claim begun token)).read w candidate.messageId).map (·.attempts)).getD 0 =
          (x.view w).attempts + 1 := by
        simp [Relation.read, Relation.row_write found, Version.view, Version.write,
          OutboxMessage.claim]
      rw [turn]
      exact .taken phase found (of_decide_eq_true pending) isFree
  next => cases h

theorem record_move (h : s.record w = some s') : OutboxMove lease s (.record w) s' := by
  unfold Outbox.record at h
  split at h
  next claim outcome claims phase =>
    obtain ⟨⟨changed, messages⟩, hupdate, h⟩ := Option.bind_eq_some_iff.mp h
    cases h
    rcases Relation.update_cases hupdate with ⟨-, rfl, -⟩ | ⟨-, x, found, open', isFree, rfl⟩
    · exact .unrecorded phase
    · exact .recorded phase found (of_decide_eq_true open') isFree
  next => cases h

theorem perform_move {step : OutboxStep} (h : s.perform lease step = some s') :
    OutboxMove lease s step s' := by
  unfold Outbox.perform at h
  split at h
  next =>
    split at h
    next later => cases Option.some.inj h; exact .tick later
    next => cases h
  next envelope availableAt createdAt =>
    cases h
    exact enqueue_move envelope availableAt createdAt
  next =>
    split at h
    next idle => cases Option.some.inj h; exact .begun idle
    next => cases h
  next => exact resetNext_move h
  next w =>
    unfold Outbox.selectCandidates at h
    split at h
    next phase => cases Option.some.inj h; exact .selected phase
    next => cases h
  next => exact takeNext_move h
  next w =>
    unfold Outbox.commitClaim at h
    split at h
    next phase => cases Option.some.inj h; exact .committed phase
    next => cases h
  next w outcome =>
    unfold Outbox.publish at h
    split at h
    next phase => cases Option.some.inj h; exact .answered phase
    next => cases h
  next => exact record_move h
  next =>
    split at h
    next phase => cases Option.some.inj h; exact .finished phase
    next => cases h
  next => cases Option.some.inj h; exact .abandoned

theorem outbox_move {step : OutboxStep} {u : Unit}
    (h : (outboxAuthority lease).attempt step s = .ok (u, s')) : OutboxMove lease s step s' := by
  obtain ⟨_, hperform, hpair⟩ := Option.map_eq_some_iff.mp (orFault_eq_ok.mp h)
  cases hpair
  exact perform_move hperform

def OutboxMessage.place (row : OutboxMessage) : String × String × Timestamp :=
  (row.aggregateType, row.aggregateId, row.createdAt)

structure DraftOf (committed draft : OutboxMessage) : Prop where
  unfinished : committed.status.unfinished = true
  place : draft.place = committed.place
  step : draft.status = .pending ∧ committed.attempts ≤ draft.attempts ∨
    draft.status = .publishing ∧ committed.attempts < draft.attempts

structure ClaimOf (w : Nat) (claiming : Bool) (claim : Claim) (x : Version Nat OutboxMessage) :
    Prop where
  drafted : claiming = true → ∃ draft, x.draft = some (w, draft) ∧ draft.status = .publishing ∧
    draft.attempts = claim.turn ∧ draft.claimedAt = some claim.claimedAt
  counted : claiming = false → claim.turn ≤ x.committed.attempts

def Worker.messageIds (worker : Worker) : List String :=
  worker.claims.map (·.messageId) ++ worker.candidates.map (·.messageId)

structure OutboxSound (s : Outbox) : Prop where
  keys : s.messages.keys.Nodup
  listed : ∀ id, id ∈ s.messages.keys ↔ (s.messages.row id).isSome = true
  drafted : ∀ id x w draft, s.messages.row id = some x → x.draft = some (w, draft) →
    (s.workers w).claiming = true ∧ DraftOf x.committed draft
  held : ∀ w claim, claim ∈ (s.workers w).claims → ∃ x,
    s.messages.row claim.messageId = some x ∧ ClaimOf w (s.workers w).claiming claim x
  distinct : ∀ w w' claim claim', claim ∈ (s.workers w).claims → claim' ∈ (s.workers w').claims →
    claim.messageId = claim'.messageId → claim.turn = claim'.turn → w = w'
  once : ∀ w, (s.workers w).messageIds.Nodup

variable {s : Outbox} {w : Nat} {worker : Worker} {id : String}
  {x : Version Nat OutboxMessage} {draft row : OutboxMessage}

theorem workers_setWorker (s : Outbox) (w : Nat) (worker : Worker) (w' : Nat) :
    (s.setWorker w worker).workers w' = if w' = w then worker else s.workers w' := by
  by_cases h : w' = w
  · subst h
    simp [Outbox.setWorker]
  · simp [Outbox.setWorker, h]

theorem outboxSound_empty : OutboxSound .empty where
  keys := List.nodup_nil
  listed := fun _ => by simp [Outbox.empty, Relation.empty]
  drafted := fun _ _ _ _ found => by simp [Outbox.empty, Relation.empty] at found
  held := fun _ _ h => by simp [Outbox.empty, Worker.claims] at h
  distinct := fun _ _ _ _ h => by simp [Outbox.empty, Worker.claims] at h
  once := fun _ => by simp [Outbox.empty, Worker.messageIds, Worker.claims, Worker.candidates]

theorem OutboxSound.undrafted (sound : OutboxSound s) (h : (s.workers w).claiming = false) :
    s.messages.Undrafted w := by
  intro id x draft found hd
  rw [(sound.drafted id x w draft found hd).1] at h
  cases h

theorem ClaimOf.counted_of_free {w' : Nat} {claiming : Bool} {claim : Claim}
    (held : ClaimOf w' claiming claim x) (isFree : x.free w = true) (other : w' ≠ w) :
    claiming = false ∧ claim.turn ≤ x.committed.attempts := by
  cases claiming with
  | true =>
    obtain ⟨draft, hd, -⟩ := held.drafted rfl
    exact absurd (Version.owner_of_free isFree hd) other
  | false => exact ⟨rfl, held.counted rfl⟩

theorem mem_claims_of_setWorker {claim : Claim}
    (claims : ∀ claim ∈ worker.claims, claim ∈ (s.workers w).claims)
    (member : claim ∈ ((s.setWorker w worker).workers w').claims) :
    claim ∈ (s.workers w').claims := by
  rw [workers_setWorker] at member
  split at member
  next own => rw [own]; exact claims claim member
  next => exact member

theorem OutboxSound.setWorker (sound : OutboxSound s)
    (claims : ∀ claim ∈ worker.claims, claim ∈ (s.workers w).claims)
    (claiming : (s.workers w).claiming = true → worker.claiming = true)
    (same : worker.claims = [] ∨ worker.claiming = (s.workers w).claiming)
    (once : worker.messageIds.Nodup) : OutboxSound (s.setWorker w worker) where
  keys := sound.keys
  listed := sound.listed
  drafted := by
    intro id x w' draft found hd
    obtain ⟨open', draftOf⟩ := sound.drafted id x w' draft found hd
    rw [workers_setWorker]
    split
    next own => exact ⟨claiming (by rw [← own]; exact open'), draftOf⟩
    next => exact ⟨open', draftOf⟩
  held := by
    intro w' claim hclaim
    rw [workers_setWorker] at hclaim ⊢
    split at hclaim
    next own =>
      obtain ⟨x, found, held⟩ := sound.held w claim (claims claim hclaim)
      rcases same with none | same
      · simp [none] at hclaim
      · exact ⟨x, found, by rw [if_pos own, own, same]; exact held⟩
    next other =>
      rw [if_neg other]
      exact sound.held w' claim hclaim
  distinct := by
    intro w₁ w₂ claim claim' h₁ h₂
    exact sound.distinct w₁ w₂ claim claim' (mem_claims_of_setWorker claims h₁)
      (mem_claims_of_setWorker claims h₂)
  once := by
    intro w'
    rw [workers_setWorker]
    split
    next => exact once
    next => exact sound.once w'

theorem OutboxSound.write (sound : OutboxSound s) (found : s.messages.row id = some x)
    (isFree : x.free w = true) (draftOf : DraftOf x.committed draft)
    (wasClaiming : (s.workers w).claiming = true) (claiming : worker.claiming = true)
    (claims : ∀ claim ∈ worker.claims,
      claim ∈ (s.workers w).claims ∧ claim.messageId ≠ id ∨
        claim.messageId = id ∧ draft.status = .publishing ∧ draft.attempts = claim.turn ∧
          draft.claimedAt = some claim.claimedAt)
    (once : worker.messageIds.Nodup) :
    OutboxSound ({ s with messages := s.messages.write w id draft }.setWorker w worker) := by
  have rows : ∀ j, (s.messages.write w id draft).row j =
      if j = id then some (x.write w draft) else s.messages.row j := Relation.row_write found
  -- a claim of another worker on the row was counted before the draft
  have others : ∀ w' claim, w' ≠ w → claim ∈ (s.workers w').claims → claim.messageId = id →
      (s.workers w').claiming = false ∧ claim.turn ≤ x.committed.attempts := by
    intro w' claim other hclaim hid
    obtain ⟨y, hy, held⟩ := sound.held w' claim hclaim
    rw [hid, found] at hy
    cases hy
    exact held.counted_of_free isFree other
  have apart : ∀ w' claim claim', w' ≠ w → claim ∈ worker.claims →
      claim' ∈ (s.workers w').claims → claim.messageId = claim'.messageId →
      claim.turn ≠ claim'.turn := by
    intro w' claim claim' other hclaim hclaim' hid hturn
    rcases claims claim hclaim with ⟨old, -⟩ | ⟨new, status, turn, -⟩
    · exact other (sound.distinct w' w claim' claim hclaim' old hid.symm hturn.symm)
    · have := (others w' claim' other hclaim' (hid.symm.trans new)).2
      rcases draftOf.step with ⟨pending, -⟩ | ⟨-, counted⟩
      · rw [status] at pending
        cases pending
      · omega
  refine ⟨sound.keys, ?_, ?_, ?_, ?_, ?_⟩
  · intro j
    change j ∈ s.messages.keys ↔ ((s.messages.write w id draft).row j).isSome = true
    rw [rows]
    split
    next own => simp [own, sound.listed, found]
    next => exact sound.listed j
  · intro j y w' draft' hj hd
    rw [workers_setWorker]
    change (s.messages.write w id draft).row j = some y at hj
    rw [rows] at hj
    split at hj
    next =>
      cases hj
      obtain ⟨rfl, rfl⟩ := Prod.mk.inj (Option.some.inj hd)
      rw [if_pos rfl]
      exact ⟨claiming, draftOf⟩
    next =>
      obtain ⟨open', draftOf'⟩ := sound.drafted j y w' draft' hj hd
      split
      next => exact ⟨claiming, draftOf'⟩
      next => exact ⟨open', draftOf'⟩
  · intro w' claim hclaim
    rw [workers_setWorker] at hclaim ⊢
    change ∃ y, (s.messages.write w id draft).row claim.messageId = some y ∧ _
    rw [rows]
    split at hclaim
    next own =>
      rw [if_pos own, claiming, own]
      rcases claims claim hclaim with ⟨old, hid⟩ | ⟨hid, status, turn, instant⟩
      · obtain ⟨y, hy, held⟩ := sound.held w claim old
        rw [wasClaiming] at held
        exact ⟨y, by rw [if_neg hid]; exact hy, held⟩
      · exact ⟨_, if_pos hid, fun _ => ⟨draft, rfl, status, turn, instant⟩, nofun⟩
    next other =>
      rw [if_neg other]
      by_cases hid : claim.messageId = id
      · obtain ⟨closed, counted⟩ := others w' claim other hclaim hid
        exact ⟨_, if_pos hid, fun h => (by rw [closed] at h; cases h), fun _ => counted⟩
      · obtain ⟨y, hy, held⟩ := sound.held w' claim hclaim
        exact ⟨y, by rw [if_neg hid]; exact hy, held⟩
  · intro w₁ w₂ claim claim' h₁ h₂ hid hturn
    rw [workers_setWorker] at h₁ h₂
    split at h₁
    next own₁ =>
      split at h₂
      next own₂ => rw [own₁, own₂]
      next other₂ => exact absurd hturn (apart w₂ claim claim' other₂ h₁ h₂ hid)
    next other₁ =>
      split at h₂
      next own₂ => exact absurd hturn.symm (apart w₁ claim' claim other₁ h₂ h₁ hid.symm)
      next other₂ => exact sound.distinct w₁ w₂ claim claim' h₁ h₂ hid hturn
  · intro w'
    rw [workers_setWorker]
    split
    next => exact once
    next => exact sound.once w'

end MiniOgas
