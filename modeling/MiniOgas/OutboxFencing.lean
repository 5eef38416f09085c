import MiniOgas.OutboxSound

namespace MiniOgas

open ReadCommitted Serial

def OutboxStep.worker : OutboxStep → Option Nat
  | .tick _ | .enqueue .. => none
  | .beginClaim w _ | .resetNext w | .selectCandidates w | .takeNext w | .commitClaim w
  | .publish w _ | .record w | .finish w | .abandon w => some w

inductive Ended (w : Nat) (x : Version Nat OutboxMessage) : Version Nat OutboxMessage → Prop
  | same (undrafted : ∀ draft, x.draft ≠ some (w, draft)) : Ended w x x
  | closed {row : OutboxMessage} (isFree : x.free w = true)
      (attempts : x.committed.attempts ≤ row.attempts) : Ended w x ⟨row, none⟩

variable {lease : Int} {s s' : Outbox} {w : Nat} {worker : Worker} {id : String}
  {x y : Version Nat OutboxMessage} {draft row : OutboxMessage}
  {messages : Relation String Nat OutboxMessage}

theorem DraftOf.attempts_le (draftOf : DraftOf row draft) : row.attempts ≤ draft.attempts := by
  rcases draftOf.step with ⟨-, attempts⟩ | ⟨-, attempts⟩ <;> omega

theorem free_of_draft (hd : x.draft = some (w, draft)) : x.free w = true := by
  simp [Version.free, hd]

theorem ended_commit (drafted : ∀ draft, x.draft = some (w, draft) → DraftOf x.committed draft) :
    Ended w x (x.commit w) := by
  by_cases own : ∃ draft, x.draft = some (w, draft)
  · obtain ⟨draft, hd⟩ := own
    rw [Version.commit_own hd]
    exact .closed (free_of_draft hd) (drafted draft hd).attempts_le
  · have other : ∀ draft, x.draft ≠ some (w, draft) := fun draft hd => own ⟨draft, hd⟩
    rw [Version.commit_other other]
    exact .same other

theorem ended_rollback : Ended w x (x.rollback w) := by
  by_cases own : ∃ draft, x.draft = some (w, draft)
  · obtain ⟨draft, hd⟩ := own
    rw [Version.rollback_own hd]
    exact .closed (free_of_draft hd) (Nat.le_refl _)
  · have other : ∀ draft, x.draft ≠ some (w, draft) := fun draft hd => own ⟨draft, hd⟩
    rw [Version.rollback_other other]
    exact .same other

theorem Ended.claimOf {w' : Nat} {claiming : Bool} {claim : Claim} (ended : Ended w x y)
    (other : w' ≠ w) (held : ClaimOf w' claiming claim x) : ClaimOf w' claiming claim y := by
  cases ended with
  | same => exact held
  | closed isFree attempts =>
    obtain ⟨rfl, counted⟩ := held.counted_of_free isFree other
    exact ⟨fun h => (by cases h), fun _ => Nat.le_trans counted attempts⟩

theorem OutboxSound.settle (sound : OutboxSound s) (keys : messages.keys = s.messages.keys)
    (rows : ∀ j, messages.row j = none ∧ s.messages.row j = none ∨
      ∃ x y, s.messages.row j = some x ∧ messages.row j = some y ∧ Ended w x y)
    (claims : ∀ claim ∈ worker.claims, claim ∈ (s.workers w).claims)
    (counted : ∀ claim ∈ worker.claims, ∀ y, messages.row claim.messageId = some y →
      claim.turn ≤ y.committed.attempts)
    (closed : worker.claiming = false) (once : worker.messageIds.Nodup) :
    OutboxSound ({ s with messages }.setWorker w worker) := by
  refine ⟨?_, ?_, ?_, ?_, ?_, ?_⟩
  · change messages.keys.Nodup
    rw [keys]
    exact sound.keys
  · intro j
    change j ∈ messages.keys ↔ (messages.row j).isSome = true
    rw [keys, sound.listed]
    rcases rows j with ⟨absent, absent'⟩ | ⟨x, y, hx, hy, -⟩
    · simp [absent, absent']
    · simp [hx, hy]
  · intro j y w' draft hj hd
    rw [workers_setWorker]
    change messages.row j = some y at hj
    rcases rows j with ⟨absent, -⟩ | ⟨x, y', hx, hy, ended⟩
    · simp [absent] at hj
    · rw [hy] at hj
      cases hj
      cases ended with
      | same undrafted =>
        rw [if_neg (by rintro rfl; exact undrafted draft hd)]
        exact sound.drafted j _ w' draft hx hd
      | closed => cases hd
  · intro w' claim hclaim
    rw [workers_setWorker] at hclaim ⊢
    split at hclaim
    next own =>
      obtain ⟨x, found, -⟩ := sound.held w claim (claims claim hclaim)
      rcases rows claim.messageId with ⟨-, absent⟩ | ⟨-, y, -, hy, -⟩
      · simp [absent] at found
      · refine ⟨y, hy, ?_⟩
        rw [if_pos own, closed]
        exact ⟨fun h => (by cases h), fun _ => counted claim hclaim y hy⟩
    next other =>
      rw [if_neg other]
      obtain ⟨x, found, held⟩ := sound.held w' claim hclaim
      rcases rows claim.messageId with ⟨-, absent⟩ | ⟨x', y, hx, hy, ended⟩
      · simp [absent] at found
      · rw [found] at hx
        cases hx
        exact ⟨y, hy, ended.claimOf other held⟩
  · intro w₁ w₂ claim claim' h₁ h₂
    exact sound.distinct w₁ w₂ claim claim' (mem_claims_of_setWorker claims h₁)
      (mem_claims_of_setWorker claims h₂)
  · intro w'
    rw [workers_setWorker]
    split
    next => exact once
    next => exact sound.once w'

theorem OutboxSound.commit (sound : OutboxSound s)
    (claims : ∀ claim ∈ worker.claims, claim ∈ (s.workers w).claims)
    (closed : worker.claiming = false) (once : worker.messageIds.Nodup) :
    OutboxSound ({ s with messages := s.messages.commit w }.setWorker w worker) := by
  have drafted : ∀ j x, s.messages.row j = some x →
      ∀ draft, x.draft = some (w, draft) → DraftOf x.committed draft :=
    fun j x found draft hd => (sound.drafted j x w draft found hd).2
  refine sound.settle rfl ?_ claims ?_ closed once
  · intro j
    cases found : s.messages.row j with
    | none => exact .inl ⟨by simp [Relation.commit, found], rfl⟩
    | some x =>
      exact .inr ⟨x, x.commit w, rfl, by simp [Relation.commit, found],
        ended_commit (drafted j x found)⟩
  · intro claim hclaim y hy
    obtain ⟨x, found, held⟩ := sound.held w claim (claims claim hclaim)
    simp only [Relation.commit, found, Option.map_some, Option.some.injEq] at hy
    cases hc : (s.workers w).claiming with
    | true =>
      obtain ⟨draft, hd, -, turn, -⟩ := held.drafted hc
      rw [← hy, Version.commit_own hd]
      exact turn.ge
    | false =>
      rw [← hy, Version.commit_other fun draft hd => sound.undrafted hc _ x draft found hd]
      exact held.counted hc

theorem OutboxSound.rollback (sound : OutboxSound s) :
    OutboxSound ({ s with messages := s.messages.rollback w }.setWorker w .idle) := by
  refine sound.settle rfl ?_ (fun claim h => by simp [Worker.claims] at h)
    (fun claim h => by simp [Worker.claims] at h) rfl
    (by simp [Worker.messageIds, Worker.claims, Worker.candidates])
  intro j
  cases found : s.messages.row j with
  | none => exact .inl ⟨by simp [Relation.rollback, found], rfl⟩
  | some x =>
    exact .inr ⟨x, x.rollback w, rfl, by simp [Relation.rollback, found], ended_rollback⟩

theorem OutboxSound.record (sound : OutboxSound s) (found : s.messages.row id = some x)
    (wasClosed : (s.workers w).claiming = false) (isFree : x.free w = true)
    (attempts : row.attempts = x.committed.attempts)
    (claims : ∀ claim ∈ worker.claims, claim ∈ (s.workers w).claims)
    (closed : worker.claiming = false) (once : worker.messageIds.Nodup) :
    OutboxSound ({ s with
      messages := (s.messages.write w id row).commit w }.setWorker w worker) := by
  have undrafted := sound.undrafted wasClosed
  have rows := Relation.row_write_commit (v := row) undrafted found
  refine sound.settle rfl ?_ claims ?_ closed once
  · intro j
    rw [rows]
    split
    next own =>
      exact .inr ⟨x, ⟨row, none⟩, by rw [own]; exact found, rfl, .closed isFree attempts.ge⟩
    next =>
      cases hj : s.messages.row j with
      | none => exact .inl ⟨rfl, rfl⟩
      | some y => exact .inr ⟨y, y, rfl, rfl, .same fun draft hd => undrafted j y draft hj hd⟩
  · intro claim hclaim y hy
    obtain ⟨z, hz, held⟩ := sound.held w claim (claims claim hclaim)
    have counted := held.counted wasClosed
    rw [rows] at hy
    split at hy
    next own =>
      rw [own, found] at hz
      cases hz
      cases hy
      exact counted.trans attempts.ge
    next =>
      rw [hz] at hy
      cases hy
      exact counted

theorem OutboxSound.insert (sound : OutboxSound s) (fresh : s.messages.row id = none)
    (row : OutboxMessage) :
    OutboxSound { s with messages := s.messages.insert id row } := by
  have rows := Relation.row_insert (v := row) fresh
  have unlisted : id ∉ s.messages.keys := by
    rw [sound.listed, fresh]
    simp
  have keys : (s.messages.insert id row).keys = s.messages.keys ++ [id] := by
    rw [Relation.insert_of_none fresh]
  have old : ∀ j x, s.messages.row j = some x → (s.messages.insert id row).row j = some x := by
    intro j x hj
    rw [rows, if_neg (by rintro rfl; simp [fresh] at hj), hj]
  refine ⟨?_, ?_, ?_, ?_, sound.distinct, sound.once⟩
  · change (s.messages.insert id row).keys.Nodup
    rw [keys]
    exact List.Nodup.append sound.keys (List.nodup_singleton id) (by simpa using unlisted)
  · intro j
    rw [keys, rows, List.mem_append, List.mem_singleton]
    split
    next own => simp [own]
    next other => simp [other, sound.listed]
  · intro j x w' draft hj hd
    rw [rows] at hj
    split at hj
    next =>
      cases hj
      cases hd
    next => exact sound.drafted j x w' draft hj hd
  · intro w' claim hclaim
    obtain ⟨x, found, held⟩ := sound.held w' claim hclaim
    exact ⟨x, old _ x found, held⟩

theorem candidates_nodup (sound : OutboxSound s) (w limit : Nat) (now : Timestamp) :
    ((s.candidates w limit now).map (·.messageId)).Nodup := by
  have sublist : ∀ ids : List String,
      ((ids.filterMap (s.candidate w)).map (·.messageId)).Sublist ids := by
    intro ids
    induction ids with
    | nil => exact List.Sublist.slnil
    | cons id ids ih =>
      cases found : s.messages.read w id with
      | none =>
        rw [List.filterMap_cons_none (by simp [Outbox.candidate, found])]
        exact ih.cons id
      | some row =>
        rw [List.filterMap_cons_some (by simp [Outbox.candidate, found]; rfl)]
        exact ih.cons_cons id
  refine (sublist _).nodup ((List.take_sublist _ _).nodup ?_)
  exact (List.perm_insertionSort _ _).nodup_iff.mpr (sound.keys.filter _)

@[simp] theorem mark_attempts (claim : Claim) (outcome : PublishOutcome) (now : Timestamp)
    (row : OutboxMessage) : (claim.mark outcome now row).attempts = row.attempts := by
  unfold Claim.mark
  split
  · rfl
  · rfl
  · split <;> rfl

@[simp] theorem mark_place (claim : Claim) (outcome : PublishOutcome) (now : Timestamp)
    (row : OutboxMessage) : (claim.mark outcome now row).place = row.place := by
  unfold Claim.mark
  split
  · rfl
  · rfl
  · split <;> rfl

theorem OutboxSound.view (sound : OutboxSound s) (found : s.messages.row id = some x) (w : Nat)
    (unfinished : (x.view w).status.unfinished = true) :
    x.committed.status.unfinished = true ∧ (x.view w).place = x.committed.place ∧
      x.committed.attempts ≤ (x.view w).attempts := by
  rcases x.view_cases w with hd | ⟨same, -⟩
  · obtain ⟨-, draftOf⟩ := sound.drafted id x w _ found hd
    exact ⟨draftOf.unfinished, draftOf.place, draftOf.attempts_le⟩
  · rw [same] at unfinished ⊢
    exact ⟨unfinished, rfl, Nat.le_refl _⟩

theorem isStale_status {before : Timestamp} (stale : row.isStale before = true) :
    row.status = .publishing := by
  simp only [OutboxMessage.isStale, Bool.and_eq_true, decide_eq_true_eq] at stale
  exact stale.1

theorem OutboxSound.draftOf_reset (sound : OutboxSound s) (found : s.messages.row id = some x)
    (status : (x.view w).status = .publishing) : DraftOf x.committed (x.view w).reset := by
  obtain ⟨unfinished, place, attempts⟩ := sound.view found w (by rw [status]; rfl)
  exact ⟨unfinished, place, .inl ⟨rfl, attempts⟩⟩

theorem OutboxSound.draftOf_claim (sound : OutboxSound s) (found : s.messages.row id = some x)
    (status : (x.view w).status = .pending) (begun : Timestamp) (token : Nat) :
    DraftOf x.committed ((x.view w).claim begun token) := by
  obtain ⟨unfinished, place, attempts⟩ := sound.view found w (by rw [status]; rfl)
  exact ⟨unfinished, place, .inr ⟨rfl, Nat.lt_succ_of_le attempts⟩⟩

theorem OutboxSound.taken (sound : OutboxSound s) {begun : Timestamp} {token : Nat}
    {candidate : Candidate} {candidates : List Candidate} {taken : List Claim}
    (phase : s.workers w = .taking begun token (candidate :: candidates) taken)
    (found : s.messages.row candidate.messageId = some x)
    (pending : (x.view w).status = .pending) (isFree : x.free w = true) :
    OutboxSound ({ s with
        messages := s.messages.write w candidate.messageId ((x.view w).claim begun token)
      }.setWorker w (.taking begun token candidates
        (taken ++ [candidate.claim begun token ((x.view w).attempts + 1)]))) := by
  have once := sound.once w
  simp only [phase, Worker.messageIds, Worker.claims, Worker.candidates, List.map_cons] at once
  have apart : ∀ claim ∈ taken, claim.messageId ≠ candidate.messageId := by
    intro claim hclaim same
    refine (List.nodup_append.mp once).2.2 _ (List.mem_map_of_mem hclaim) _ List.mem_cons_self same
  refine sound.write found isFree (sound.draftOf_claim found pending begun token)
    (by rw [phase]; rfl) rfl ?_ ?_
  · intro claim hclaim
    rcases of_mem_concat hclaim with old | rfl
    · exact .inl ⟨by rw [phase]; exact old, apart claim old⟩
    · exact .inr ⟨rfl, rfl, rfl, rfl⟩
  · simpa [Worker.messageIds, Worker.claims, Worker.candidates, Candidate.claim] using once

/-- The step lemma: no step of a worker or of a producer breaks the invariant of the outbox. -/
theorem OutboxSound.move {step : OutboxStep} (sound : OutboxSound s)
    (move : OutboxMove lease s step s') : OutboxSound s' := by
  cases move with
  | tick later => exact ⟨sound.1, sound.2, sound.3, sound.4, sound.5, sound.6⟩
  | duplicate => exact sound
  | enqueued fresh => exact sound.insert fresh _
  | begun idle =>
    have sound' : OutboxSound { s with nextToken := s.nextToken + 1 } :=
      ⟨sound.1, sound.2, sound.3, sound.4, sound.5, sound.6⟩
    exact sound'.setWorker (fun _ h => by cases h) (fun _ => rfl) (.inl rfl) List.nodup_nil
  | @resetNone w _ _ _ _ _ phase =>
    exact sound.setWorker (fun _ h => by cases h) (fun _ => rfl) (.inl rfl) List.nodup_nil
  | resetOne phase found stale isFree =>
    exact sound.write found isFree (sound.draftOf_reset found (isStale_status stale))
      (by rw [phase]; rfl) rfl (fun _ h => by cases h) List.nodup_nil
  | selected phase =>
    exact sound.setWorker (fun _ h => by cases h) (fun _ => rfl) (.inl rfl)
      (candidates_nodup sound _ _ _)
  | @passedOver w _ _ _ _ _ phase =>
    have once := sound.once w
    refine sound.setWorker (by rw [phase]; exact fun _ h => h) (fun _ => rfl)
      (.inr (by rw [phase]; rfl)) ?_
    rw [phase] at once
    exact once.sublist (List.Sublist.append_left (List.sublist_cons_self _ _) _)
  | taken phase found pending isFree => exact sound.taken phase found pending isFree
  | @committed w _ _ _ phase =>
    have once := sound.once w
    rw [phase] at once
    refine sound.commit (by rw [phase]; exact fun _ h => h) rfl ?_
    simpa [Worker.messageIds, Worker.claims, Worker.candidates] using once
  | @answered w _ _ _ phase =>
    have once := sound.once w
    rw [phase] at once
    exact sound.setWorker (by rw [phase]; exact fun _ h => h) (fun h => by rw [phase] at h; cases h)
      (.inr (by rw [phase]; rfl)) once
  | @unrecorded w _ _ _ phase =>
    have once := sound.once w
    rw [phase] at once
    refine sound.commit (by rw [phase]; exact fun _ h => List.mem_cons_of_mem _ h) rfl ?_
    exact once.sublist (List.Sublist.append_right (List.sublist_cons_self _ _) _)
  | @recorded w claim outcome claims x phase found unpublished isFree =>
    have once := sound.once w
    have closed : (s.workers w).claiming = false := by rw [phase]; rfl
    have view : x.view w = x.committed := Version.view_other fun draft hd =>
      sound.undrafted closed _ x draft found hd
    rw [phase] at once
    refine sound.record found closed isFree (by rw [mark_attempts, view])
      (by rw [phase]; exact fun _ h => List.mem_cons_of_mem _ h) rfl ?_
    exact once.sublist (List.Sublist.append_right (List.sublist_cons_self _ _) _)
  | finished phase =>
    exact sound.setWorker (fun _ h => by cases h) (fun h => by rw [phase] at h; cases h)
      (.inl rfl) List.nodup_nil
  | abandoned => exact sound.rollback

def timely (s : Outbox) : OutboxStep → Bool
  | .record w =>
    match s.workers w with
    | .answered claim _ _ => (s.messages.row claim.messageId).all fun x =>
        !x.free w || x.committed.status = .published || x.committed.attempts = claim.turn
    | _ => true
  | _ => true

/-- A worker does not change the row of a message that was claimed again. -/
def Fenced (lease : Int) (s : Outbox) (step : OutboxStep) : Prop :=
  ∀ w claim x, step.worker = some w → (s.workers w).claiming = false →
    claim ∈ (s.workers w).claims → s.messages.row claim.messageId = some x →
    x.committed.attempts ≠ claim.turn →
    ((outboxAuthority lease).serve s step).messages.row claim.messageId = some x

/-- A message that is published or in the dead-letter queue stays what it is. -/
def FinishedKept (s s' : Outbox) : Prop :=
  ∀ id x, s.messages.row id = some x → x.committed.status.unfinished = false →
    ∃ y, s'.messages.row id = some y ∧ y.committed = x.committed

/-- A claim that is the last one of its message holds it out of the dead-letter queue. -/
def LastClaimOpen (s : Outbox) : Prop :=
  ∀ w claim x, claim ∈ (s.workers w).claims → (s.workers w).claiming = false →
    s.messages.row claim.messageId = some x → x.committed.attempts = claim.turn →
    x.committed.status ≠ .deadLetter

inductive RowMove (s : Outbox) (step : OutboxStep) (id : String) (x : Version Nat OutboxMessage) :
    OutboxMessage → Prop
  | same : RowMove s step id x x.committed
  | drafted {w : Nat} {draft : OutboxMessage} (hd : x.draft = some (w, draft)) :
      RowMove s step id x draft
  | marked {w : Nat} {claim : Claim} {outcome : PublishOutcome} {claims : List Claim}
      (step_eq : step = .record w) (phase : s.workers w = .answered claim outcome claims)
      (own : claim.messageId = id) (isFree : x.free w = true)
      (unpublished : x.committed.status ≠ .published) :
      RowMove s step id x (claim.mark outcome s.now x.committed)

variable {step : OutboxStep} {claim : Claim} {outcome : PublishOutcome}

theorem OutboxSound.view_of_closed (sound : OutboxSound s) (closed : (s.workers w).claiming = false)
    (found : s.messages.row id = some x) : x.view w = x.committed :=
  Version.view_other fun draft hd => sound.undrafted closed id x draft found hd

theorem row_move (sound : OutboxSound s) (move : OutboxMove lease s step s')
    (found : s.messages.row id = some x) :
    ∃ y, s'.messages.row id = some y ∧ RowMove s step id x y.committed := by
  cases move with
  | enqueued fresh =>
    refine ⟨x, ?_, .same⟩
    rw [Relation.row_insert fresh, if_neg (by rintro rfl; simp [fresh] at found), found]
  | resetOne phase found' stale isFree | taken phase found' pending isFree =>
    change ∃ y, (s.messages.write _ _ _).row id = some y ∧ _
    rw [Relation.row_write found']
    split
    next own =>
      rw [own, found'] at found
      cases found
      exact ⟨_, rfl, .same⟩
    next => exact ⟨x, found, .same⟩
  | @committed w _ _ _ phase =>
    refine ⟨x.commit w, by simp [Outbox.setWorker, Relation.commit, found], ?_⟩
    rcases x.commit_cases w with ⟨draft, hd, commit⟩ | ⟨commit, -⟩
    · rw [commit]
      exact .drafted hd
    · rw [commit]
      exact .same
  | @unrecorded w _ _ _ phase =>
    have undrafted := sound.undrafted (w := w) (by rw [phase]; rfl)
    refine ⟨x, ?_, .same⟩
    change (s.messages.commit w).row id = some x
    rw [Relation.commit_of_undrafted undrafted, found]
  | @recorded w claim outcome claims x' phase found' unpublished isFree =>
    have closed : (s.workers w).claiming = false := by rw [phase]; rfl
    have view := sound.view_of_closed closed found'
    change ∃ y, ((s.messages.write w _ _).commit w).row id = some y ∧ _
    rw [Relation.row_write_commit (sound.undrafted closed) found']
    split
    next own =>
      rw [own, found'] at found
      cases found
      rw [view] at unpublished ⊢
      exact ⟨_, rfl, .marked rfl phase own.symm isFree unpublished⟩
    next => exact ⟨x, found, .same⟩
  | @abandoned w =>
    refine ⟨x.rollback w, by simp [Outbox.setWorker, Relation.rollback, found], ?_⟩
    rw [Version.rollback_committed]
    exact .same
  | _ => exact ⟨x, found, .same⟩

theorem timely_record (timely : timely s (.record w) = true) {claims : List Claim}
    (phase : s.workers w = .answered claim outcome claims)
    (found : s.messages.row claim.messageId = some x) (isFree : x.free w = true)
    (unpublished : x.committed.status ≠ .published) : x.committed.attempts = claim.turn := by
  simpa [MiniOgas.timely, phase, found, isFree, unpublished] using timely

theorem OutboxSound.eq_of_messageId (sound : OutboxSound s) {claim claim' : Claim}
    (hclaim : claim ∈ (s.workers w).claims) (hclaim' : claim' ∈ (s.workers w).claims)
    (same : claim.messageId = claim'.messageId) : claim = claim' :=
  List.inj_on_of_nodup_map (List.nodup_append.mp (sound.once w)).1 hclaim hclaim' same

theorem claims_move (move : OutboxMove lease s step s') (w : Nat)
    (closed : (s'.workers w).claiming = false) :
    ∀ claim ∈ (s'.workers w).claims, claim ∈ (s.workers w).claims := by
  have set : ∀ (messages : Relation String Nat OutboxMessage) (v : Nat) (worker : Worker),
      (worker.claiming = false → ∀ claim ∈ worker.claims, claim ∈ (s.workers v).claims) →
      (({ s with messages }.setWorker v worker).workers w).claiming = false →
      ∀ claim ∈ (({ s with messages }.setWorker v worker).workers w).claims,
        claim ∈ (s.workers w).claims := by
    intro messages v worker kept
    rw [workers_setWorker]
    split
    next own =>
      rw [own]
      exact kept
    next => exact fun _ _ hclaim => hclaim
  cases move with
  | tick | duplicate | enqueued => exact fun _ hclaim => hclaim
  | begun =>
    rw [workers_setWorker] at closed ⊢
    split at closed
    next => cases closed
    next other =>
      rw [if_neg other]
      exact fun _ hclaim => hclaim
  | resetNone | resetOne | selected | passedOver | taken =>
    exact set _ _ _ (nofun) closed
  | committed phase | answered phase =>
    exact set _ _ _ (fun _ claim hclaim => by rw [phase]; exact hclaim) closed
  | unrecorded phase | recorded phase =>
    exact set _ _ _
      (fun _ claim hclaim => by rw [phase]; exact List.mem_cons_of_mem _ hclaim) closed
  | finished | abandoned => exact set _ _ _ (nofun) closed

theorem claims_record {claims : List Claim} (move : OutboxMove lease s (.record w) s')
    (phase : s.workers w = .answered claim outcome claims) :
    (s'.workers w).claims = claims := by
  cases move with
  | unrecorded phase' | recorded phase' =>
    rw [phase] at phase'
    cases phase'
    simp [workers_setWorker, Worker.claims]

theorem LastClaimOpen.move (sound : OutboxSound s) (lastOpen : LastClaimOpen s)
    (htimely : timely s step = true) (move : OutboxMove lease s step s') : LastClaimOpen s' := by
  intro w claim y hclaim closed hy turn
  have before := claims_move move w closed claim hclaim
  obtain ⟨x, found, held⟩ := sound.held w claim before
  obtain ⟨y', hy', rowMove⟩ := row_move sound move found
  rw [hy] at hy'
  cases hy'
  have unfinished : (s.workers w).claiming = true → x.committed.status.unfinished = true := by
    intro claiming
    rw [claiming] at held
    obtain ⟨draft, hd, -⟩ := held.drafted rfl
    exact (sound.drafted _ x w draft found hd).2.unfinished
  generalize hrow : y.committed = row at rowMove turn ⊢
  cases rowMove with
  | same =>
    cases claiming : (s.workers w).claiming with
    | true =>
      intro dead
      have := unfinished claiming
      rw [dead] at this
      cases this
    | false => exact lastOpen w claim x before claiming found turn
  | drafted hd =>
    rcases (sound.drafted _ x _ row found hd).2.step with ⟨status, -⟩ | ⟨status, -⟩ <;>
      simp [status]
  | @marked w' claim' outcome claims step_eq phase own isFree unpublished =>
    subst step_eq
    have member : claim' ∈ (s.workers w').claims := by rw [phase]; exact List.mem_cons_self
    rw [← own] at found
    have turn' := timely_record htimely phase found isFree unpublished
    rw [mark_attempts, turn'] at turn
    have same : w' = w := sound.distinct w' w claim' claim member before own turn
    subst same
    have := sound.eq_of_messageId member before own
    subst this
    rw [claims_record move phase] at hclaim
    have once := sound.once w'
    rw [phase] at once
    simp only [Worker.messageIds, Worker.claims, List.map_cons, List.cons_append,
      List.nodup_cons, List.mem_append, not_or] at once
    exact absurd (List.mem_map_of_mem hclaim) once.1.1

theorem FinishedKept.trans {a b c : Outbox} (first : FinishedKept a b) (second : FinishedKept b c) :
    FinishedKept a c := by
  intro id x found finished
  obtain ⟨y, hy, same⟩ := first id x found finished
  obtain ⟨z, hz, same'⟩ := second id y hy (by rw [same]; exact finished)
  exact ⟨z, hz, same'.trans same⟩

theorem FinishedKept.move (sound : OutboxSound s) (lastOpen : LastClaimOpen s)
    (htimely : timely s step = true) (move : OutboxMove lease s step s') : FinishedKept s s' := by
  intro id x found finished
  obtain ⟨y, hy, rowMove⟩ := row_move sound move found
  refine ⟨y, hy, ?_⟩
  generalize y.committed = row at rowMove ⊢
  cases rowMove with
  | same => rfl
  | drafted hd =>
    rw [(sound.drafted _ x _ row found hd).2.unfinished] at finished
    cases finished
  | @marked w claim outcome claims step_eq phase own isFree unpublished =>
    subst step_eq own
    have turn := timely_record htimely phase found isFree unpublished
    have notDead := lastOpen w claim x (by rw [phase]; exact List.mem_cons_self)
      (by rw [phase]; rfl) found turn
    cases hstatus : x.committed.status <;> simp_all [OutboxStatus.unfinished]

theorem row_of_held (sound : OutboxSound s) (move : OutboxMove lease s step s')
    (own : step.worker = some w) (closed : (s.workers w).claiming = false)
    (hclaim : claim ∈ (s.workers w).claims) (found : s.messages.row claim.messageId = some x)
    (other : ∀ outcome claims, step = .record w → s.workers w = .answered claim outcome claims →
      x.free w = true → x.committed.status = .published) :
    s'.messages.row claim.messageId = some x := by
  have undrafted := sound.undrafted closed
  cases move with
  | tick | duplicate | enqueued => cases own
  | begun idle => exact found
  | selected | passedOver | answered | finished => exact found
  | resetNone phase | resetOne phase | taken phase | committed phase =>
    cases own
    rw [phase] at closed
    cases closed
  | unrecorded =>
    cases own
    change (s.messages.commit w).row _ = some x
    rw [Relation.commit_of_undrafted undrafted, found]
  | @recorded w' claim' outcome claims x' phase found' unpublished isFree =>
    cases own
    change ((s.messages.write w _ _).commit w).row _ = some x
    rw [Relation.row_write_commit undrafted found']
    split
    next same =>
      have member : claim' ∈ (s.workers w).claims := by rw [phase]; exact List.mem_cons_self
      cases sound.eq_of_messageId hclaim member same
      rw [found] at found'
      cases found'
      rw [sound.view_of_closed closed found] at unpublished
      exact absurd (other outcome claims rfl phase isFree) unpublished
    next => exact found
  | abandoned =>
    cases own
    change (s.messages.rollback w).row _ = some x
    rw [Relation.rollback_of_undrafted undrafted, found]

/-- A worker that records its answer before its message is claimed again is fenced. -/
theorem fenced_of_timely (sound : OutboxSound s) (htimely : timely s step = true) :
    Fenced lease s step := by
  intro w claim x own closed hclaim found reclaimed
  rcases (outboxAuthority lease).serve_cases s step with same | ⟨_, h⟩
  · rw [same, found]
  · refine row_of_held sound (outbox_move h) own closed hclaim found ?_
    intro outcome claims record phase isFree
    subst record
    by_contra unpublished
    exact reclaimed (timely_record htimely phase found isFree unpublished)

end MiniOgas
