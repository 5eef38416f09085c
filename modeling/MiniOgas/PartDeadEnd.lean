import MiniOgas.PartCompletion
import MiniOgas.StepSystem

namespace MiniOgas

open Bounded Procedure Serial Steps

inductive PollDelivery where
  | lost
  | answered
  | unanswered
deriving DecidableEq

/-- What the agent reads of `ACTIVE_PART`. -/
structure ActivePart where
  partId : String
  claimToken : String
  claimedTick : Nat
deriving DecidableEq

/-- An agent, with what it relies on of `uuid.uuid4`. -/
structure PartAgent where
  env : StoreEnv
  nodeCode : String
  workshopType : String
  ttlSeconds : Int
  distinct : Function.Injective env.uuid
  named : ∀ n, env.uuid n ≠ ""

/-- The central store and the agent; `tick` is the last tick at which it has polled. -/
structure PartAgentSystem where
  store : MemoryStore := .empty
  active : Option ActivePart := none
  tick : Nat := 0

inductive PartEvent where
  | central (call : PartCall)
  | poll (now : Timestamp) (delivery : PollDelivery)

/-- The tick of the next poll: `tick == 1 or tick % 6 == 0`. -/
def nextPollTick (tick : Nat) : Nat := if tick = 0 then 1 else (tick / 6 + 1) * 6

namespace PartAgent

variable (agent : PartAgent)

def pollPartQueue (now : Timestamp) (delivery : PollDelivery) (tick : Nat)
    (system : PartAgentSystem) : PartAgentSystem :=
  if agent.workshopType ∉ ["milling", "grinding"] then system
  else
    match system.active with
    | none =>
      if delivery = .lost then system
      else
        let claim := claimNextPartForNode agent.env system.store now agent.nodeCode
          agent.ttlSeconds
        { system with
          store := claim.2
          active := if delivery = .answered then
              claim.1.map fun part => ⟨part.partId, part.claimToken, tick⟩
            else none }
    | some active =>
      let claimedTick := if active.claimedTick = 0 then tick else active.claimedTick
      if tick < claimedTick + 3 then system
      else if delivery = .lost then system
      else
        match completeClaimedPart system.store now agent.nodeCode active.partId
          active.claimToken with
        | .error _ => system
        | .ok (_, store) =>
          { system with
            store
            active := if delivery = .answered then none else some active }

def step (system : PartAgentSystem) : PartEvent → PartAgentSystem
  | .central call => { system with store := (partAuthority agent.env).serve system.store call }
  | .poll now delivery =>
    let tick := nextPollTick system.tick
    { agent.pollPartQueue now delivery tick system with tick }

end PartAgent

def PartEvent.answered : PartEvent → Prop
  | .central _ => True
  | .poll _ delivery => delivery = .answered

/-- The call takes a claimed part away: its claim has expired, somebody completes it, or a new part
pushes it out of a full queue. -/
def TakesAway (env : StoreEnv) (store : MemoryStore) (call : PartCall) (part : PartQueueItem) :
    Prop :=
  let pushed := store.partQueue.length = partCapacity ∧ store.partQueue.head? = some part
  match call.operation with
  | .createReadyPart _ => pushed
  | .claimNextPartForNode _ _ | .releaseExpiredPartClaims =>
    part.claimExpired call.now (currentRunIdForSystem env store) = true
  | .completeClaimedPart nodeCode partId claimToken => ∃ done,
    completablePart store nodeCode partId claimToken = .ok done ∧
      (done.partId = part.partId ∨ (nextPartQueueStep done nodeCode).isSome = true ∧ pushed)
  | .heartbeats _ => False

namespace PartAgent

variable (agent : PartAgent)

/-- There is a continuation without further losses after which the agent has no part. -/
def Recoverable (system : PartAgentSystem) : Prop :=
  ∃ events, (∀ event ∈ events, event.answered) ∧ (exec agent.step system events).active = none

structure HeldAs (active : ActivePart) (part : PartQueueItem) : Prop where
  partId : part.partId = active.partId
  target : part.targetNode = agent.nodeCode
  claimed : part.status = .claimed
  token : part.claimToken = active.claimToken

instance decidableHeldAs (active : ActivePart) (part : PartQueueItem) :
    Decidable (agent.HeldAs active part) :=
  decidable_of_iff (part.partId = active.partId ∧ part.targetNode = agent.nodeCode ∧
      part.status = .claimed ∧ part.claimToken = active.claimToken)
    ⟨fun ⟨partId, target, claimed, token⟩ => ⟨partId, target, claimed, token⟩,
      fun ⟨partId, target, claimed, token⟩ => ⟨partId, target, claimed, token⟩⟩

def Held (store : MemoryStore) (active : ActivePart) : Prop :=
  ∃ part ∈ store.partQueue, agent.HeldAs active part

instance decidableHeld (store : MemoryStore) (active : ActivePart) :
    Decidable (agent.Held store active) :=
  inferInstanceAs (Decidable (∃ part ∈ store.partQueue, agent.HeldAs active part))

/-- The event takes away the part that the agent has, or completes it without an answer. -/
def Loses (system : PartAgentSystem) : PartEvent → Prop
  | .central call => ∃ active ∈ system.active, ∃ part ∈ system.store.partQueue,
    agent.HeldAs active part ∧ TakesAway agent.env system.store call part
  | .poll _ delivery => delivery = .unanswered ∧
    ∃ active ∈ system.active, agent.Held system.store active

structure Sound (system : PartAgentSystem) : Prop where
  parts : PartsSound system.store
  issued : ∀ active ∈ system.active, ∃ k < system.store.uuids,
    active.claimToken = agent.env.uuid k
  ready : ∀ active ∈ system.active, active.claimedTick ≠ 0 ∧
    active.claimedTick + 3 ≤ nextPollTick system.tick
  workshop : system.active ≠ none → agent.workshopType ∈ ["milling", "grinding"]

end PartAgent

section Claimed

variable {env : StoreEnv} {store store' : MemoryStore} {now : Timestamp} {call : PartCall}
  {nodeCode partId claimToken run : String} {part done new : PartQueueItem}

theorem PartAppend.mem_claimed_iff (append : PartAppend store store' new)
    (sound : PartsSound store) (claimed : part.status = .claimed) : part ∈ store'.partQueue ↔
      part ∈ store.partQueue ∧
        ¬ (store.partQueue.length = partCapacity ∧ store.partQueue.head? = some part) := by
  constructor
  · intro there
    have member := there
    rw [append.queue] at member
    rcases of_mem_keepLast_append member with earlier | rfl
    · exact ⟨earlier, fun pushed => (append.mem_iff sound earlier).mp there pushed.1 pushed.2⟩
    · rw [append.ready] at claimed
      cases claimed
  · rintro ⟨earlier, room⟩
    exact (append.mem_iff sound earlier).mpr fun full first => room ⟨full, first⟩

theorem mem_releasedQueue_iff (claimed : part.status = .claimed) {queue : List PartQueueItem} :
    part ∈ releasedQueue now run queue ↔
      part ∈ queue ∧ ¬ part.claimExpired now run = true := by
  unfold releasedQueue
  rw [List.mem_map]
  constructor
  · rintro ⟨old, there, same⟩
    split at same
    next =>
      rw [← same] at claimed
      cases claimed
    next live =>
      rw [← same]
      exact ⟨there, live⟩
  · rintro ⟨there, live⟩
    exact ⟨part, there, if_neg live⟩

theorem mem_claimNextPartForNode_iff (claimed : part.status = .claimed)
    (earlier : part.claimToken ≠ env.uuid store.uuids) (ttlSeconds : Int) :
    part ∈ (claimNextPartForNode env store now nodeCode ttlSeconds).2.partQueue ↔
      part ∈ store.partQueue ∧
        ¬ part.claimExpired now (currentRunIdForSystem env store) = true := by
  rw [← mem_releasedQueue_iff claimed]
  unfold claimNextPartForNode
  dsimp only
  split
  next => exact Iff.rfl
  next ready found =>
    constructor
    · intro there
      rcases mem_modifyFirst_cases found there with rfl | there
      · exact absurd rfl earlier
      · exact there
    · intro there
      refine mem_modifyFirst_of_ne found there fun same => ?_
      have claimable := status_of_claimable (by simpa using List.find?_some found)
      rw [← same, claimed] at claimable
      cases claimable

theorem mem_completedStore_iff (sound : PartsSound store)
    (h : completablePart store nodeCode partId claimToken = .ok done)
    (claimed : part.status = .claimed) : part ∈ (completedStore store now done).partQueue ↔
      part ∈ store.partQueue ∧ done.partId ≠ part.partId := by
  have found := (find_partId (completablePart_eq_ok.mp h).1).2.2
  constructor
  · intro there
    rcases mem_modifyFirst_cases found there with rfl | earlier
    · cases claimed
    · refine ⟨earlier, fun same => ?_⟩
      have own : part = done.complete now :=
        (@completedStore_sound _ now _ _ _ _ sound h).eq_of_partId there
          (mem_modifyFirst found) same.symm
      rw [own] at claimed
      cases claimed
  · rintro ⟨earlier, other⟩
    exact completedStore_mem found earlier fun same => other same.symm

theorem mem_finishPart_iff (sound : PartsSound store)
    (h : completablePart store nodeCode partId claimToken = .ok done)
    (claimed : part.status = .claimed) :
    part ∈ (finishPart store now nodeCode done).2.partQueue ↔
      part ∈ store.partQueue ∧
        ¬ (done.partId = part.partId ∨ (nextPartQueueStep done nodeCode).isSome = true ∧
          store.partQueue.length = partCapacity ∧ store.partQueue.head? = some part) := by
  have middle := @mem_completedStore_iff _ now _ _ _ part _ sound h claimed
  have found := find_partId (completablePart_eq_ok.mp h).1
  have length : (completedStore store now done).partQueue.length = store.partQueue.length :=
    (completedStore_write found.2.2 (completablePart_eq_ok.mp h).2.2.1).moves.length_eq.symm
  rcases finishPart_cases store now nodeCode done with ⟨last, finished⟩ |
    ⟨step, target, next, store', finished, append⟩
  · have last : nextPartQueueStep done nodeCode = none := last
    rw [finished, middle, last]
    simp
  · have next : nextPartQueueStep done nodeCode = some (step, target) := next
    rw [finished, append.mem_claimed_iff (completedStore_sound sound h) claimed, middle, length,
      next]
    by_cases other : done.partId = part.partId
    · simp [other]
    · rw [completedStore_head fun same => other same.symm]
      simp [other]

theorem mem_serve_iff (sound : PartsSound store) (claimed : part.status = .claimed)
    (earlier : part.claimToken ≠ env.uuid store.uuids) :
    part ∈ ((partAuthority env).serve store call).partQueue ↔
      part ∈ store.partQueue ∧ ¬ TakesAway env store call part := by
  obtain ⟨now, operation⟩ := call
  cases operation with
  | createReadyPart request => exact (createReadyPart_append request).mem_claimed_iff sound claimed
  | claimNextPartForNode nodeCode ttlSeconds =>
    exact mem_claimNextPartForNode_iff claimed earlier ttlSeconds
  | releaseExpiredPartClaims => exact mem_releasedQueue_iff claimed
  | completeClaimedPart nodeCode partId claimToken =>
    change part ∈ (after (PartCall.perform env _) store).partQueue ↔ _
    cases h : completablePart store nodeCode partId claimToken with
    | error fault =>
      rw [after_error (completeClaimedPart_refused h)]
      refine ⟨fun there => ⟨there, ?_⟩, fun kept => kept.1⟩
      rintro ⟨done, completable, -⟩
      cases h.symm.trans completable
    | ok done =>
      rw [after_ok (completeClaimedPart_served h), mem_finishPart_iff sound h claimed]
      refine and_congr_right fun _ => not_congr ⟨fun taken => ⟨done, h, taken⟩, ?_⟩
      rintro ⟨other, completable, taken⟩
      cases h.symm.trans completable
      exact taken
  | heartbeats heartbeats => exact ⟨fun there => ⟨there, nofun⟩, fun kept => kept.1⟩

theorem uuids_le_serve (store : MemoryStore) (call : PartCall) :
    store.uuids ≤ ((partAuthority env).serve store call).uuids := by
  obtain ⟨now, operation⟩ := call
  cases operation with
  | createReadyPart request =>
    change store.uuids ≤ (createReadyPart env store now request).2.uuids
    simp only [createReadyPart, persistPartQueueItem, queuePart, le_refl]
  | claimNextPartForNode nodeCode ttlSeconds =>
    change store.uuids ≤ (claimNextPartForNode env store now nodeCode ttlSeconds).2.uuids
    unfold claimNextPartForNode
    dsimp only
    split
    · exact le_rfl
    · exact Nat.le_succ _
  | releaseExpiredPartClaims => exact le_rfl
  | completeClaimedPart nodeCode partId claimToken =>
    change store.uuids ≤ (after (PartCall.perform env _) store).uuids
    cases h : completablePart store nodeCode partId claimToken with
    | error fault => rw [after_error (completeClaimedPart_refused h)]
    | ok part =>
      rw [after_ok (completeClaimedPart_served h)]
      simp only [finishPart]
      split <;> simp only [persistPartQueueItem, persistPartQueueItems, queuePart, le_refl]
  | heartbeats heartbeats => exact le_rfl

theorem claimNextPartForNode_claimed {ttlSeconds : Int}
    (h : (claimNextPartForNode env store now nodeCode ttlSeconds).1 = some part) :
    part ∈ (claimNextPartForNode env store now nodeCode ttlSeconds).2.partQueue ∧
      part.targetNode = nodeCode ∧ part.status = .claimed ∧
      part.claimToken = env.uuid store.uuids ∧
      (claimNextPartForNode env store now nodeCode ttlSeconds).2.uuids = store.uuids + 1 := by
  unfold claimNextPartForNode at h ⊢
  dsimp only at h ⊢
  split at h
  next => cases h
  next ready found =>
    have claimable : ready.claimable (currentRunIdForSystem env store) nodeCode = true := by
      simpa using List.find?_some found
    simp only [PartQueueItem.claimable, Bool.and_eq_true, decide_eq_true_eq] at claimable
    rw [← Option.some.inj h]
    exact ⟨mem_modifyFirst found, claimable.1.1, rfl, rfl, rfl⟩

end Claimed

theorem nextPollTick_gap (tick : Nat) :
    nextPollTick tick ≠ 0 ∧ nextPollTick tick + 3 ≤ nextPollTick (nextPollTick tick) := by
  have unfolded : ∀ n, n ≠ 0 → nextPollTick n = (n / 6 + 1) * 6 := fun n h => if_neg h
  by_cases first : tick = 0
  · rw [first]
    exact ⟨by decide, by decide⟩
  · have next := unfolded tick first
    have positive : nextPollTick tick ≠ 0 := by omega
    rw [unfolded _ positive]
    omega

namespace PartAgent

variable {agent : PartAgent} {system : PartAgentSystem} {active : ActivePart} {now : Timestamp}
  {delivery : PollDelivery} {store : MemoryStore} {part : PartQueueItem} {call : PartCall}

def completion (agent : PartAgent) (now : Timestamp) (active : ActivePart) : PartCall :=
  ⟨now, .completeClaimedPart agent.nodeCode active.partId active.claimToken⟩

def claiming (agent : PartAgent) (now : Timestamp) : PartCall :=
  ⟨now, .claimNextPartForNode agent.nodeCode agent.ttlSeconds⟩

theorem completablePart_of_heldAs (sound : PartsSound store) (named : active.claimToken ≠ "")
    (there : part ∈ store.partQueue) (holds : agent.HeldAs active part) :
    completablePart store agent.nodeCode active.partId active.claimToken = .ok part := by
  refine completablePart_eq_ok.mpr ⟨?_, holds.target, holds.claimed, named, holds.token⟩
  cases found : store.partQueue.find? (·.partId = active.partId) with
  | none =>
    have missing := List.find?_eq_none.mp found part there
    exact absurd holds.partId (by simpa using missing)
  | some first =>
    obtain ⟨own, first_there, -⟩ := find_partId found
    rw [sound.eq_of_partId first_there there (own.trans holds.partId.symm)]

theorem heldAs_of_completablePart
    (h : completablePart store agent.nodeCode active.partId active.claimToken = .ok part) :
    part ∈ store.partQueue ∧ agent.HeldAs active part := by
  obtain ⟨found, target, claimed, -, token⟩ := completablePart_eq_ok.mp h
  obtain ⟨own, there, -⟩ := find_partId found
  exact ⟨there, own, target, claimed, token⟩

theorem Sound.token_ne (sound : agent.Sound system) (h : active ∈ system.active) :
    active.claimToken ≠ agent.env.uuid system.store.uuids ∧ active.claimToken ≠ "" := by
  obtain ⟨k, earlier, token⟩ := sound.issued active h
  rw [token]
  refine ⟨fun same => ?_, agent.named k⟩
  have := agent.distinct same
  omega

theorem held_serve_iff (sound : agent.Sound system) (h : active ∈ system.active) :
    agent.Held ((partAuthority agent.env).serve system.store call) active ↔
      ∃ part ∈ system.store.partQueue, agent.HeldAs active part ∧
        ¬ TakesAway agent.env system.store call part := by
  have stays : ∀ part, agent.HeldAs active part →
      (part ∈ ((partAuthority agent.env).serve system.store call).partQueue ↔
        part ∈ system.store.partQueue ∧ ¬ TakesAway agent.env system.store call part) := by
    intro part holds
    refine mem_serve_iff sound.parts holds.claimed ?_
    rw [holds.token]
    exact (sound.token_ne h).1
  constructor
  · rintro ⟨part, there, holds⟩
    obtain ⟨earlier, untaken⟩ := (stays part holds).mp there
    exact ⟨part, earlier, holds, untaken⟩
  · rintro ⟨part, earlier, holds, untaken⟩
    exact ⟨part, (stays part holds).mpr ⟨earlier, untaken⟩, holds⟩

theorem step_poll (sound : agent.Sound system) :
    (agent.step system (.poll now delivery) =
        { system with tick := nextPollTick system.tick } ∧
      (delivery = .lost ∨ ∀ active ∈ system.active, ¬ agent.Held system.store active)) ∨
    (system.active = none ∧ agent.workshopType ∈ ["milling", "grinding"] ∧
      agent.step system (.poll now delivery) =
        { store := (partAuthority agent.env).serve system.store (agent.claiming now)
          active := if delivery = .answered then
              (claimNextPartForNode agent.env system.store now agent.nodeCode
                agent.ttlSeconds).1.map fun part =>
                  ⟨part.partId, part.claimToken, nextPollTick system.tick⟩
            else none
          tick := nextPollTick system.tick }) ∨
    ∃ active ∈ system.active, agent.Held system.store active ∧ delivery ≠ .lost ∧
      agent.step system (.poll now delivery) =
        { store := (partAuthority agent.env).serve system.store (agent.completion now active)
          active := if delivery = .answered then none else some active
          tick := nextPollTick system.tick } := by
  unfold step pollPartQueue
  dsimp only
  by_cases workshop : agent.workshopType ∈ ["milling", "grinding"]
  · rw [if_neg (not_not.mpr workshop)]
    cases h : system.active with
    | none =>
      by_cases lost : delivery = .lost
      · refine .inl ⟨?_, .inl lost⟩
        rw [if_pos lost]
        simp only [h]
      · refine .inr (.inl ⟨rfl, workshop, ?_⟩)
        rw [if_neg lost]
        rfl
    | some active =>
      obtain ⟨started, waited⟩ := sound.ready active h
      dsimp only
      rw [if_neg started, if_neg (by omega)]
      by_cases lost : delivery = .lost
      · refine .inl ⟨?_, .inl lost⟩
        rw [if_pos lost]
        simp only [h]
      · rw [if_neg lost]
        cases completable : completablePart system.store agent.nodeCode active.partId
          active.claimToken with
        | error fault =>
          have refused : completeClaimedPart system.store now agent.nodeCode active.partId
              active.claimToken = .error fault := bind_eq_error.mpr (.inl completable)
          rw [refused]
          refine .inl ⟨by simp only [h], .inr ?_⟩
          rintro _ own ⟨part, there, holds⟩
          cases Option.mem_some.mp own
          cases completable.symm.trans (completablePart_of_heldAs sound.parts
            (sound.token_ne h).2 there holds)
        | ok part =>
          have completed : completeClaimedPart system.store now agent.nodeCode active.partId
              active.claimToken = .ok (finishPart system.store now agent.nodeCode part) :=
            bind_eq_ok.mpr ⟨part, completable, rfl⟩
          rw [completed]
          refine .inr (.inr ⟨active, rfl, ⟨part, heldAs_of_completablePart completable⟩, lost, ?_⟩)
          have served : (partAuthority agent.env).serve system.store (agent.completion now active) =
              (finishPart system.store now agent.nodeCode part).2 :=
            after_ok (completeClaimedPart_served completable)
          rw [served]
  · rw [if_pos workshop]
    refine .inl ⟨rfl, .inr fun active own => ?_⟩
    have some : system.active ≠ none := by
      rw [own]
      exact Option.some_ne_none _
    exact absurd (sound.workshop some) workshop

theorem Sound.serve (sound : agent.Sound system) (call : PartCall) {tick : Nat}
    (gap : nextPollTick system.tick ≤ nextPollTick tick) :
    agent.Sound
      { system with store := (partAuthority agent.env).serve system.store call, tick } where
  parts := partsSound_serve sound.parts call
  issued active h := by
    obtain ⟨k, earlier, token⟩ := sound.issued active h
    exact ⟨k, Nat.lt_of_lt_of_le earlier (uuids_le_serve system.store call), token⟩
  ready active h := by
    obtain ⟨started, waited⟩ := sound.ready active h
    exact ⟨started, Nat.le_trans waited gap⟩
  workshop := sound.workshop

theorem Sound.idle (sound : agent.Sound system) (tick : Nat) :
    agent.Sound { system with active := none, tick } where
  parts := sound.parts
  issued _ h := nomatch h
  ready _ h := nomatch h
  workshop h := absurd rfl h

theorem nextPollTick_mono (tick : Nat) : nextPollTick tick ≤ nextPollTick (nextPollTick tick) := by
  have := (nextPollTick_gap tick).2
  omega

theorem sound_claimed (sound : agent.Sound system)
    (workshop : agent.workshopType ∈ ["milling", "grinding"])
    (h : (claimNextPartForNode agent.env system.store now agent.nodeCode
      agent.ttlSeconds).1 = some part) :
    agent.Sound
      { store := (partAuthority agent.env).serve system.store (agent.claiming now)
        active := some ⟨part.partId, part.claimToken, nextPollTick system.tick⟩
        tick := nextPollTick system.tick } ∧
    agent.Held ((partAuthority agent.env).serve system.store (agent.claiming now))
      ⟨part.partId, part.claimToken, nextPollTick system.tick⟩ := by
  obtain ⟨there, target, claimed, token, counted⟩ := claimNextPartForNode_claimed h
  have parts := @partsSound_serve agent.env _ sound.parts (agent.claiming now)
  refine ⟨⟨parts, ?_, ?_, fun _ => workshop⟩, part, there, rfl, target, claimed, rfl⟩
  · intro active own
    cases Option.mem_some.mp own
    refine ⟨system.store.uuids, ?_, token⟩
    change system.store.uuids < (claimNextPartForNode agent.env system.store now agent.nodeCode
      agent.ttlSeconds).2.uuids
    omega
  · intro active own
    cases Option.mem_some.mp own
    exact nextPollTick_gap system.tick

theorem sound_step (sound : agent.Sound system) (event : PartEvent) :
    agent.Sound (agent.step system event) := by
  cases event with
  | central call => exact sound.serve call (Nat.le_refl (nextPollTick system.tick))
  | poll now delivery =>
    have later := nextPollTick_mono system.tick
    rcases @step_poll _ _ now delivery sound with ⟨polled, -⟩ |
      ⟨idle, workshop, polled⟩ | ⟨active, own, -, -, polled⟩
    · rw [polled]
      refine ⟨sound.parts, sound.issued, fun active own => ?_, sound.workshop⟩
      obtain ⟨started, waited⟩ := sound.ready active own
      exact ⟨started, Nat.le_trans waited later⟩
    · rw [polled]
      have unclaimed := (sound.serve (agent.claiming now) later).idle (nextPollTick system.tick)
      split
      next =>
        cases claimed : (claimNextPartForNode agent.env system.store now agent.nodeCode
          agent.ttlSeconds).1 with
        | none => exact unclaimed
        | some part => exact (sound_claimed sound workshop claimed).1
      next => exact unclaimed
    · rw [polled]
      have served := sound.serve (agent.completion now active) later
      split
      next => exact served.idle _
      next =>
        rw [Option.mem_def.mp own] at served
        exact served

structure Live (agent : PartAgent) (system : PartAgentSystem) : Prop where
  sound : agent.Sound system
  held : ∀ active ∈ system.active, agent.Held system.store active

structure DeadEnd (agent : PartAgent) (system : PartAgentSystem) : Prop where
  sound : agent.Sound system
  lost : ∃ active ∈ system.active, ¬ agent.Held system.store active

theorem live_empty : agent.Live {} where
  sound := ⟨partsSound_empty, nofun, nofun, fun h => absurd rfl h⟩
  held := nofun

theorem Live.step (live : agent.Live system) {event : PartEvent}
    (keeps : ¬ agent.Loses system event) : agent.Live (agent.step system event) := by
  refine ⟨sound_step live.sound event, ?_⟩
  cases event with
  | central call =>
    intro active own
    obtain ⟨part, there, holds⟩ := live.held active own
    refine (held_serve_iff live.sound own).mpr ⟨part, there, holds, fun taken => ?_⟩
    exact keeps ⟨active, own, part, there, holds, taken⟩
  | poll now delivery =>
    rcases @step_poll _ _ now delivery live.sound with ⟨polled, -⟩ | ⟨-, workshop, polled⟩ |
      ⟨active, own, held, delivered, polled⟩
    · rw [polled]
      exact live.held
    · rw [polled]
      intro active own
      split at own
      next =>
        obtain ⟨part, claimed, same⟩ := Option.map_eq_some_iff.mp own
        rw [← same]
        exact (sound_claimed live.sound workshop claimed).2
      next => cases own
    · have answered : delivery = .answered := by
        cases delivery with
        | lost => exact absurd rfl delivered
        | answered => rfl
        | unanswered => exact absurd ⟨rfl, active, own, held⟩ keeps
      rw [polled, if_pos answered]
      exact nofun

theorem Live.recoverable (live : agent.Live system) : agent.Recoverable system := by
  cases h : system.active with
  | none => exact ⟨[], nofun, h⟩
  | some active =>
    have held := live.held active h
    refine ⟨[.poll 0 .answered], fun event member => ?_, ?_⟩
    · rw [List.mem_singleton.mp member]
      rfl
    · rw [exec_cons, exec_nil]
      rcases @step_poll _ _ 0 .answered live.sound with ⟨-, lost | refused⟩ | ⟨idle, -⟩ |
        ⟨_, -, -, -, polled⟩
      · cases lost
      · exact absurd held (refused active h)
      · rw [h] at idle
        cases idle
      · rw [polled, if_pos rfl]

theorem DeadEnd.step (dead : agent.DeadEnd system) (event : PartEvent) :
    agent.DeadEnd (agent.step system event) := by
  obtain ⟨active, own, refused⟩ := dead.lost
  refine ⟨sound_step dead.sound event, active, ?_⟩
  cases event with
  | central call =>
    refine ⟨own, fun held => refused ?_⟩
    obtain ⟨part, there, holds, -⟩ := (held_serve_iff dead.sound own).mp held
    exact ⟨part, there, holds⟩
  | poll now delivery =>
    rcases @step_poll _ _ now delivery dead.sound with ⟨polled, -⟩ | ⟨idle, -⟩ |
      ⟨other, same, held, -⟩
    · rw [polled]
      exact ⟨own, refused⟩
    · rw [Option.mem_def.mp own] at idle
      cases idle
    · rw [Option.mem_unique same own] at held
      exact absurd held refused

theorem DeadEnd.not_recoverable (dead : agent.DeadEnd system) : ¬ agent.Recoverable system := by
  rintro ⟨events, -, idle⟩
  obtain ⟨active, own, -⟩ := (invariant (fun _ event dead => dead.step event) dead events).lost
  rw [idle] at own
  cases own

theorem Live.deadEnd (live : agent.Live system) {event : PartEvent}
    (loses : agent.Loses system event) : agent.DeadEnd (agent.step system event) := by
  refine ⟨sound_step live.sound event, ?_⟩
  cases event with
  | central call =>
    obtain ⟨active, own, part, there, holds, taken⟩ := loses
    refine ⟨active, own, fun held => ?_⟩
    obtain ⟨other, other_there, other_holds, untaken⟩ := (held_serve_iff live.sound own).mp held
    have same : other = part := live.sound.parts.eq_of_partId other_there there
      (other_holds.partId.trans holds.partId.symm)
    rw [same] at untaken
    exact untaken taken
  | poll now delivery =>
    obtain ⟨unanswered, active, own, held⟩ := loses
    rcases @step_poll _ _ now delivery live.sound with ⟨-, lost | refused⟩ | ⟨idle, -⟩ |
      ⟨other, same, -, -, polled⟩
    · rw [unanswered] at lost
      cases lost
    · exact absurd held (refused active own)
    · rw [Option.mem_def.mp own] at idle
      cases idle
    · rw [polled, Option.mem_unique same own, if_neg (by rw [unanswered]; exact nofun)]
      refine ⟨active, rfl, fun still => ?_⟩
      obtain ⟨part, there, holds, untaken⟩ := (held_serve_iff live.sound own).mp still
      exact untaken ⟨part, completablePart_of_heldAs live.sound.parts
        (live.sound.token_ne own).2 there holds, .inl rfl⟩

/-- In a run of the agent and the queue there is always a way to an agent without a part, if and
only if the agent never loses the part that it has. -/
theorem recoverable_throughout_iff (agent : PartAgent) (events : List PartEvent) :
    Throughout agent.step agent.Recoverable {} events ↔
      Meets agent.step (fun system event => ¬ agent.Loses system event) {} events := by
  refine throughout_iff_meets (fun _ _ live keeps => live.step keeps)
    (fun _ live => live.recoverable) (fun _ _ live loses => ?_) live_empty
  exact (live.deadEnd (not_not.mp loses)).not_recoverable

end PartAgent

def sampleMillingAgent : PartAgent where
  env := { sampleStoreEnv with uuid := fun n => String.ofList (List.replicate (n + 1) 'a') }
  nodeCode := "milling-workshop-01"
  workshopType := "milling"
  ttlSeconds := 48
  distinct m n same := by
    have lists := congrArg String.toList same
    simpa using congrArg List.length lists
  named n same := by
    have lists := congrArg String.toList same
    simp at lists

def sampleCompletion : List PartEvent :=
  [.central ⟨0, .createReadyPart { orderId := "WO-1" }⟩, .poll 1 .answered, .poll 2 .unanswered]

theorem unanswered_completion_dead_end : ¬ ∀ (agent : PartAgent) (events : List PartEvent),
    Throughout agent.step agent.Recoverable {} events := by
  intro h
  have meets := (PartAgent.recoverable_throughout_iff sampleMillingAgent sampleCompletion).mp
    (h sampleMillingAgent sampleCompletion)
  exact meets.2.2.1 ⟨rfl, ⟨"PART-00001", "a", 1⟩, by decide +kernel, by decide +kernel⟩

end MiniOgas
