import MiniOgas.Credentials
import MiniOgas.Serial

namespace MiniOgas

open Steps

namespace CredentialSystem

/-- What the transactions keep: the rows have keys, a row that is not committed has its
transaction, and an `UPDATE` has revoked the rows of its snapshot that it has reached. -/
structure Sound (system : CredentialSystem) : Prop where
  ids : (system.credentials.map (·.credentialId)).Nodup
  hashes : (system.credentials.map (·.tokenHash)).Nodup
  inserting : ∀ row ∈ system.credentials, ∀ id, row.inserter = some id →
    row.revoked = false ∧ row.revoker = none ∧ ∃ session issue seen,
      system.sessions.get? id = some session ∧ session.call.issue? = some issue ∧
        session.phase = .inserted seen ∧ row.credentialId = issue.credentialId ∧
          row.principalId = issue.principalId
  inserted : ∀ id session seen, system.sessions.get? id = some session →
    session.phase = .inserted seen → ∃ row ∈ system.credentials, row.inserter = some id
  revoking : ∀ row ∈ system.credentials, ∀ id, row.revoker = some id →
    ∃ session, system.sessions.get? id = some session ∧ row.credentialId ∈ session.phase.seen
  seen : ∀ id session, system.sessions.get? id = some session → ∀ key ∈ session.phase.seen,
    ∃ row ∈ system.credentials, row.credentialId = key ∧ row.inserter = none ∧
      (key ∈ session.phase.rest ∨ row.revoked = true ∨ row.revoker = some id)
  rest : ∀ id session, system.sessions.get? id = some session →
    session.phase.rest ⊆ session.phase.seen

/-- A principal has at most one unrevoked credential. -/
def Single (system : CredentialSystem) : Prop :=
  ∀ principalId, (system.liveCredentials principalId).length ≤ 1

/-- A credential is committed only when the statement that has cleared the way for it has seen
every credential of the principal that is in force. -/
def Current (system : CredentialSystem) : CredentialEvent → Prop
  | .commit id => ∀ session seen, system.sessions.get? id = some session →
    session.phase = .inserted seen →
      ∀ row ∈ system.liveCredentials session.call.principalId, row.credentialId ∈ seen
  | .start .. | .statement _ | .lock .. | .fail _ => True

section Rows

variable {hash : String → String} {system : CredentialSystem} {id other : Nat}
  {session : CredentialSession} {phase : CredentialPhase} {issue : CredentialIssue}
  {row : Credential} {key principalId : String} {previous : Option String}
  {observed rest : List String} {event : CredentialEvent} {one two : Credential}

theorem mem_liveCredentials : row ∈ system.liveCredentials principalId ↔
    row ∈ system.credentials ∧ row.live = true ∧ row.principalId = principalId := by
  unfold liveCredentials
  rw [List.mem_filter, Bool.and_eq_true, decide_eq_true_eq]

theorem live_iff : row.live = true ↔ row.inserter = none ∧ row.revoked = false := by
  unfold Credential.live
  rw [Bool.and_eq_true, decide_eq_true_eq, Bool.not_eq_true']

theorem issue_principalId {call : CredentialCall} (issues : call.issue? = some issue) :
    call.principalId = issue.principalId := by
  cases call with
  | rotate own | provision own => rw [← Option.some.inj issues, CredentialCall.principalId]
  | revoke own => cases issues

theorem Sound.row_unique (sound : Sound system)
    (first : one ∈ system.credentials) (second : two ∈ system.credentials)
    (same : one.credentialId = two.credentialId) : one = two :=
  List.inj_on_of_nodup_map sound.ids first second same

theorem Sound.token_unique (sound : Sound system)
    (first : one ∈ system.credentials) (second : two ∈ system.credentials)
    (same : one.tokenHash = two.tokenHash) : one = two :=
  List.inj_on_of_nodup_map sound.hashes first second same

theorem sound_empty : Sound {} where
  ids := List.nodup_nil
  hashes := List.nodup_nil
  inserting := List.forall_mem_nil _
  inserted := nofun
  revoking := List.forall_mem_nil _
  seen := nofun
  rest := nofun

theorem Sound.set (sound : Sound system) (pending : ∀ seen, session.phase ≠ .inserted seen)
    (fresh : ∀ row ∈ system.credentials, row.inserter ≠ some id)
    (revoking : ∀ row ∈ system.credentials, row.revoker = some id →
      row.credentialId ∈ session.phase.seen)
    (seen : ∀ key ∈ session.phase.seen, ∃ row ∈ system.credentials, row.credentialId = key ∧
      row.inserter = none ∧
        (key ∈ session.phase.rest ∨ row.revoked = true ∨ row.revoker = some id))
    (rest : session.phase.rest ⊆ session.phase.seen) :
    Sound { system with sessions := system.sessions.set id session } := by
  refine ⟨sound.ids, sound.hashes, ?_, ?_, ?_, ?_, ?_⟩
  · intro row member other inserter
    have ne : other ≠ id := fun same => fresh row member (same ▸ inserter)
    rw [Dictionary.get?_set, if_neg ne]
    exact sound.inserting row member other inserter
  · intro other later observed found finished
    rcases Dictionary.of_get?_set found with ⟨-, rfl⟩ | ⟨-, found⟩
    · exact absurd finished (pending observed)
    · exact sound.inserted other later observed found finished
  · intro row member other revoker
    rw [Dictionary.get?_set]
    split
    next same => exact ⟨session, rfl, revoking row member (same ▸ revoker)⟩
    next => exact sound.revoking row member other revoker
  · exact Dictionary.forall_set seen sound.seen
  · exact Dictionary.forall_set rest sound.rest

theorem Sound.not_inserting (sound : Sound system)
    (running : system.sessions.get? id = some session)
    (pending : ∀ seen, session.phase ≠ .inserted seen) :
    ∀ row ∈ system.credentials, row.inserter ≠ some id := by
  intro row member inserter
  obtain ⟨-, -, own, issue, observed, found, -, phase, -⟩ := sound.inserting row member id inserter
  rw [running] at found
  cases found
  exact pending observed phase

theorem Sound.goOn (sound : Sound system) (running : system.sessions.get? id = some session)
    (before : ∀ seen, session.phase ≠ .inserted seen) (after : ∀ seen, phase ≠ .inserted seen)
    (grows : session.phase.seen ⊆ phase.seen)
    (seen : ∀ key ∈ phase.seen, ∃ row ∈ system.credentials, row.credentialId = key ∧
      row.inserter = none ∧ (key ∈ phase.rest ∨ row.revoked = true ∨ row.revoker = some id))
    (rest : phase.rest ⊆ phase.seen) : Sound (system.goOn id session phase) := by
  refine sound.set after (sound.not_inserting running before) (fun row member revoker => ?_) seen
    rest
  obtain ⟨own, found, there⟩ := sound.revoking row member id revoker
  rw [running] at found
  cases found
  exact grows there

theorem Sound.start (sound : Sound system) (absent : system.sessions.get? id = none)
    (pending : ∀ seen, session.phase ≠ .inserted seen) (blank : session.phase.seen = [])
    (rest : session.phase.rest ⊆ session.phase.seen) :
    Sound { system with sessions := system.sessions.set id session } := by
  refine sound.set pending (fun row member inserter => ?_) (fun row member revoker => ?_) ?_ rest
  · obtain ⟨-, -, own, issue, observed, found, -⟩ := sound.inserting row member id inserter
    rw [absent] at found
    cases found
  · obtain ⟨own, found, -⟩ := sound.revoking row member id revoker
    rw [absent] at found
    cases found
  · rw [blank]
    exact fun key there => absurd there List.not_mem_nil

@[simp] theorem markRow_credentialId : (markRow id key row).credentialId = row.credentialId := by
  unfold markRow
  split <;> rfl

@[simp] theorem markRow_tokenHash : (markRow id key row).tokenHash = row.tokenHash := by
  unfold markRow
  split <;> rfl

@[simp] theorem markRow_principalId : (markRow id key row).principalId = row.principalId := by
  unfold markRow
  split <;> rfl

@[simp] theorem markRow_inserter : (markRow id key row).inserter = row.inserter := by
  unfold markRow
  split <;> rfl

@[simp] theorem markRow_revoked : (markRow id key row).revoked = row.revoked := by
  unfold markRow
  split <;> rfl

theorem Sound.mark (sound : Sound system) (running : system.sessions.get? id = some session)
    (observed : key ∈ session.phase.seen)
    (free : ∀ row ∈ system.credentials, row.credentialId = key → row.inserter = none ∧
      row.revoker = none) :
    Sound { system with credentials := system.credentials.map (markRow id key) } := by
  refine ⟨?_, ?_, ?_, ?_, ?_, ?_, sound.rest⟩
  · simpa [List.map_map, Function.comp_def] using sound.ids
  · simpa [List.map_map, Function.comp_def] using sound.hashes
  · intro later member other inserter
    obtain ⟨row, there, same⟩ := List.mem_map.mp member
    unfold markRow at same
    split at same
    next own =>
      subst same
      have none := (free row there own).1
      rw [none] at inserter
      cases inserter
    next =>
      subst same
      exact sound.inserting row there other inserter
  · intro other own seen found finished
    obtain ⟨row, there, inserter⟩ := sound.inserted other own seen found finished
    exact ⟨_, List.mem_map_of_mem there, by rw [markRow_inserter, inserter]⟩
  · intro later member other revoker
    obtain ⟨row, there, same⟩ := List.mem_map.mp member
    unfold markRow at same
    split at same
    next own =>
      subst same
      cases revoker
      exact ⟨session, running, own ▸ observed⟩
    next =>
      subst same
      exact sound.revoking row there other revoker
  · intro other own found key' there
    obtain ⟨row, member, named, none, written⟩ := sound.seen other own found key' there
    refine ⟨_, List.mem_map_of_mem member, ?_⟩
    unfold markRow
    split
    next same =>
      refine ⟨named, none, ?_⟩
      have unwritten := (free row member same).2
      rcases written with rest | revoked | revoker
      · exact .inl rest
      · exact .inr (.inl revoked)
      · rw [unwritten] at revoker
        cases revoker
    next => exact ⟨named, none, written⟩

theorem Sound.insert (sound : Sound system) (running : system.sessions.get? id = some session)
    (phase : session.phase = .writing previous observed [])
    (issues : session.call.issue? = some issue) (apart : system.clashing hash issue = [])
    {row : Credential}
    (named : row.credentialId = issue.credentialId) (hashed : row.tokenHash = hash issue.token)
    (owned : row.principalId = issue.principalId) (inserter : row.inserter = some id)
    (unrevoked : row.revoked = false) (unwritten : row.revoker = none) :
    Sound { system with
      credentials := system.credentials ++ [row]
      sessions := system.sessions.set id { session with phase := .inserted observed } } := by
  have distinct : ∀ old ∈ system.credentials, old.credentialId ≠ row.credentialId ∧
      old.tokenHash ≠ row.tokenHash := by
    intro old member
    have absent := List.filter_eq_nil_iff.mp apart old member
    simpa [named, hashed] using absent
  have pending : ∀ seen, session.phase ≠ .inserted seen := by
    intro seen same
    rw [phase] at same
    cases same
  have fresh := sound.not_inserting running pending
  refine ⟨?_, ?_, ?_, ?_, ?_, ?_, ?_⟩
  · rw [List.map_append]
    exact List.Nodup.append sound.ids (List.nodup_singleton _)
      (by simpa using fun old member => (distinct old member).1)
  · rw [List.map_append]
    exact List.Nodup.append sound.hashes (List.nodup_singleton _)
      (by simpa using fun old member => (distinct old member).2)
  · intro later member other writes
    rcases Serial.of_mem_concat member with old | rfl
    · have ne : other ≠ id := fun same => fresh later old (same ▸ writes)
      rw [Dictionary.get?_set, if_neg ne]
      exact sound.inserting later old other writes
    · rw [inserter] at writes
      cases writes
      rw [Dictionary.get?_set, if_pos rfl]
      exact ⟨unrevoked, unwritten, _, issue, observed, rfl, issues, rfl, named, owned⟩
  · intro other own seen found finished
    rcases Dictionary.of_get?_set found with ⟨same, rfl⟩ | ⟨-, found⟩
    · exact ⟨row, by simp, by rw [same, inserter]⟩
    · obtain ⟨old, member, writes⟩ := sound.inserted other own seen found finished
      exact ⟨old, List.mem_append_left _ member, writes⟩
  · intro later member other revoker
    rcases Serial.of_mem_concat member with old | rfl
    · obtain ⟨own, found, there⟩ := sound.revoking later old other revoker
      rw [Dictionary.get?_set]
      split
      next same =>
        rw [same, running] at found
        cases found
        rw [phase] at there
        exact ⟨_, rfl, there⟩
      next => exact ⟨own, found, there⟩
    · rw [unwritten] at revoker
      cases revoker
  · intro other own found key there
    rcases Dictionary.of_get?_set found with ⟨same, rfl⟩ | ⟨-, found⟩
    · obtain ⟨old, member, facts⟩ := sound.seen id session running key (by rwa [phase])
      rw [phase] at facts
      exact ⟨old, List.mem_append_left _ member, same ▸ facts⟩
    · obtain ⟨old, member, facts⟩ := sound.seen other own found key there
      exact ⟨old, List.mem_append_left _ member, facts⟩
  · exact Dictionary.forall_set (List.nil_subset _) sound.rest

/-- What the end of a transaction makes of a row that it leaves. -/
structure Released (id : Nat) (row later : Credential) : Prop where
  credentialId : later.credentialId = row.credentialId
  tokenHash : later.tokenHash = row.tokenHash
  principalId : later.principalId = row.principalId
  inserter : later.inserter = if row.inserter = some id then none else row.inserter
  revoker : later.revoker = if row.revoker = some id then none else row.revoker
  revoked : row.revoked = true → later.revoked = true
  spared : row.revoked = false → row.revoker = none → later.revoked = false

theorem Sound.ends (sound : Sound system) {kept : List Credential} {f : Credential → Credential}
    (part : kept.Sublist system.credentials)
    (stays : ∀ row ∈ system.credentials, row.inserter ≠ some id → row ∈ kept)
    (released : ∀ row ∈ kept, Released id row (f row)) :
    Sound { system with credentials := kept.map f, sessions := system.sessions.pop id } := by
  have keep : ∀ {other : Nat} {j : Option Nat}, (if j = some id then none else j) = some other →
      j = some other ∧ other ≠ id := by
    intro other j kept
    split at kept
    next => cases kept
    next differs => exact ⟨kept, fun same => differs (same ▸ kept)⟩
  refine ⟨?_, ?_, ?_, ?_, ?_, ?_, ?_⟩
  · rw [List.map_map]
    refine (congrArg List.Nodup (List.map_congr_left fun row there =>
      (released row there).credentialId)).mpr ?_
    exact sound.ids.sublist (part.map _)
  · rw [List.map_map]
    refine (congrArg List.Nodup (List.map_congr_left fun row there =>
      (released row there).tokenHash)).mpr ?_
    exact sound.hashes.sublist (part.map _)
  · intro later member other inserter
    obtain ⟨row, there, rfl⟩ := List.mem_map.mp member
    have after := released row there
    obtain ⟨inserter, ne⟩ := keep (after.inserter.symm.trans inserter)
    obtain ⟨unrevoked, unwritten, own, issue, seen, found, issues, phase, named, owned⟩ :=
      sound.inserting row (part.subset there) other inserter
    exact ⟨after.spared unrevoked unwritten, by simp [after.revoker, unwritten], own, issue, seen,
      Dictionary.get?_pop_of_ne found ne, issues, phase, after.credentialId.trans named,
      after.principalId.trans owned⟩
  · intro other own seen found finished
    obtain ⟨ne, found⟩ := Dictionary.of_get?_pop found
    obtain ⟨row, there, inserter⟩ := sound.inserted other own seen found finished
    have there := stays row there (by simpa [inserter] using ne)
    exact ⟨_, List.mem_map_of_mem there, by simp [(released row there).inserter, inserter, ne]⟩
  · intro later member other revoker
    obtain ⟨row, there, rfl⟩ := List.mem_map.mp member
    have after := released row there
    obtain ⟨revoker, ne⟩ := keep (after.revoker.symm.trans revoker)
    obtain ⟨own, found, observed⟩ := sound.revoking row (part.subset there) other revoker
    exact ⟨own, Dictionary.get?_pop_of_ne found ne, after.credentialId ▸ observed⟩
  · intro other own found key there
    obtain ⟨ne, found⟩ := Dictionary.of_get?_pop found
    obtain ⟨row, member, named, none, written⟩ := sound.seen other own found key there
    have member := stays row member (by simp [none])
    have after := released row member
    exact ⟨_, List.mem_map_of_mem member, after.credentialId.trans named,
      by simp [after.inserter, none],
      written.imp_right (Or.imp after.revoked fun revoker => by simp [after.revoker, revoker, ne])⟩
  · exact fun other own found => sound.rest other own (Dictionary.of_get?_pop found).2

theorem Sound.committed (sound : Sound system) : Sound (system.committed id) :=
  sound.ends (List.Sublist.refl _) (fun _ member _ => member) fun _ _ =>
    ⟨rfl, rfl, rfl, rfl, rfl, fun revoked => by simp [commitRow, revoked],
      fun unrevoked unwritten => by simp [commitRow, unrevoked, unwritten]⟩

theorem Sound.rolledBack (sound : Sound system) : Sound (system.rolledBack id) :=
  sound.ends List.filter_sublist
    (fun _ member differs => List.mem_filter.mpr ⟨member, decide_eq_true differs⟩) fun _ there =>
      ⟨rfl, rfl, rfl, (if_neg (of_decide_eq_true (List.mem_filter.mp there).2)).symm, rfl,
        fun revoked => revoked, fun unrevoked _ => unrevoked⟩

theorem Sound.inserts (sound : Sound system) (running : system.sessions.get? id = some session)
    (phase : session.phase = .writing previous observed [])
    (issues : session.call.issue? = some issue) :
    Sound (system.insert hash id session issue previous observed) := by
  unfold CredentialSystem.insert
  split
  next => exact sound
  next =>
    split
    next => exact sound.rolledBack
    next apart =>
      exact sound.insert running phase issues (not_not.mp apart) rfl rfl rfl rfl rfl rfl

theorem Sound.statement (sound : Sound system)
    (running : system.sessions.get? id = some session) :
    Sound (system.statement hash id session) := by
  unfold CredentialSystem.statement
  have blank : ∀ {phase : CredentialPhase}, phase.seen = [] → ∀ key ∈ phase.seen,
      ∃ row ∈ system.credentials, row.credentialId = key ∧ row.inserter = none ∧
        (key ∈ phase.rest ∨ row.revoked = true ∨ row.revoker = some id) := by
    intro phase empty key there
    rw [empty] at there
    exact absurd there List.not_mem_nil
  split
  next issue ensuring issues =>
    have went : Sound (system.goOn id session .reading) :=
      sound.goOn running (by simp [ensuring]) (by simp) (by simp [ensuring, CredentialPhase.seen])
        (blank rfl) (List.nil_subset _)
    exact { went with }
  next issue reading issues =>
    have moves : ∀ {phase : CredentialPhase}, phase.seen = [] →
        phase.rest = [] → (∀ seen, phase ≠ .inserted seen) →
          Sound (system.goOn id session phase) := by
      intro phase empty reached pending
      exact sound.goOn running (by simp [reading]) pending
        (by simp [reading, CredentialPhase.seen]) (blank empty) (by simp [reached])
    have looks : Sound (if system.credentials.any (fun row => row.inserter = none &&
        row.principalId = issue.principalId) then system.goOn id session .found
      else system.goOn id session (.writing none [] [])) := by
      split
      next => exact moves rfl rfl (by simp)
      next => exact moves rfl rfl (by simp)
    split
    next => exact moves rfl rfl (by simp)
    next => exact looks
    next => exact looks
  next revoking =>
    refine sound.goOn running (by simp [revoking]) (by simp)
      (by simp [revoking, CredentialPhase.seen]) (fun key there => ?_) (List.Subset.refl _)
    obtain ⟨row, member, named⟩ := List.mem_map.mp there
    obtain ⟨member, live, -⟩ := mem_liveCredentials.mp member
    exact ⟨row, member, named, (live_iff.mp live).1, .inl there⟩
  next => exact sound.inserts running ‹_› ‹_›
  next => exact sound

theorem Sound.reach (sound : Sound system) (running : system.sessions.get? id = some session)
    (writing : session.phase = .writing previous observed rest)
    (reached : ∀ row ∈ system.credentials, row.credentialId = key →
      row.revoked = true ∨ row.revoker = some id) :
    Sound (system.goOn id session (.writing previous observed (rest.filter (· ≠ key)))) := by
  have seen := sound.seen id session running
  have subset := sound.rest id session running
  rw [writing] at seen subset
  refine sound.goOn running (by simp [writing]) (by simp)
    (by simp [writing, CredentialPhase.seen]) (fun other there => ?_)
    (fun other there => subset (List.mem_of_mem_filter there))
  obtain ⟨row, member, named, none, written⟩ := seen other there
  refine ⟨row, member, named, none, ?_⟩
  by_cases same : other = key
  · exact .inr (reached row member (named.trans same))
  · rcases written with among | written
    · exact .inl (List.mem_filter.mpr ⟨among, by simpa using same⟩)
    · exact .inr written

theorem Sound.lock (sound : Sound system) (running : system.sessions.get? id = some session) :
    Sound (system.lock id session key) := by
  unfold CredentialSystem.lock
  split
  next previous observed rest writing =>
    split
    next waiting =>
      split
      next => exact sound
      next row found =>
        have named : row.credentialId = key := by simpa using List.find?_some found
        have member := List.mem_of_find?_eq_some found
        have only : ∀ other ∈ system.credentials, other.credentialId = key → other = row :=
          fun other there same => sound.row_unique there member (same.trans named.symm)
        split
        next => exact sound
        next unwritten =>
          split
          next revoked =>
            refine sound.reach running writing fun other there same => .inl ?_
            rw [only other there same]
            exact revoked
          next =>
            have among : key ∈ session.phase.seen := by
              refine sound.rest id session running ?_
              rw [writing]
              exact waiting
            have marked := sound.mark running among fun other there same => by
              obtain ⟨seen, kept, name, none, -⟩ := sound.seen id session running key among
              rw [only other there same, ← only seen kept name]
              refine ⟨none, ?_⟩
              rw [only seen kept name]
              simpa using unwritten
            refine marked.reach running writing fun other there same => .inr ?_
            obtain ⟨old, -, rfl⟩ := List.mem_map.mp there
            rw [markRow_credentialId] at same
            rw [markRow, if_pos same]
    next => exact sound
  next => exact sound

theorem Sound.step (sound : Sound system) (event : CredentialEvent) :
    Sound (system.step hash event) := by
  unfold CredentialSystem.step
  cases event with
  | start id request secrets now =>
    dsimp only
    split
    next call issues absent =>
      refine sound.start absent ?_ ?_ ?_
      · intro seen
        split <;> simp
      · dsimp only
        split <;> rfl
      · dsimp only
        split <;> exact List.nil_subset _
    next => exact sound
  | statement id =>
    dsimp only
    split
    next session running => exact sound.statement running
    next => exact sound
  | lock id key =>
    dsimp only
    split
    next session running => exact sound.lock running
    next => exact sound
  | commit id =>
    dsimp only
    split
    next =>
      split
      next => exact sound.committed
      next => exact sound
    next => exact sound
  | fail id =>
    dsimp only
    split
    next => exact sound.rolledBack
    next => exact sound

theorem single_iff (sound : Sound system) : Single system ↔
    ∀ one ∈ system.credentials, ∀ two ∈ system.credentials, one.live = true → two.live = true →
      one.principalId = two.principalId → one.credentialId = two.credentialId := by
  constructor
  · intro single one first two second liveOne liveTwo same
    have few := single two.principalId
    have here := mem_liveCredentials.mpr ⟨first, liveOne, same⟩
    have there := mem_liveCredentials.mpr ⟨second, liveTwo, rfl⟩
    obtain ⟨only, sole⟩ := List.length_eq_one_iff.mp
      (Nat.le_antisymm few (List.length_pos_of_mem there))
    rw [sole, List.mem_singleton] at here there
    rw [here, there]
  · intro unique principalId
    have distinct : (system.liveCredentials principalId).Nodup :=
      (List.Nodup.of_map _ sound.ids).filter _
    cases rows : system.liveCredentials principalId with
    | nil => exact Nat.zero_le _
    | cons one others =>
      cases others with
      | nil => exact Nat.le_refl _
      | cons two others =>
        have first : one ∈ system.liveCredentials principalId := by simp [rows]
        have second : two ∈ system.liveCredentials principalId := by simp [rows]
        obtain ⟨inOne, liveOne, ownOne⟩ := mem_liveCredentials.mp first
        obtain ⟨inTwo, liveTwo, ownTwo⟩ := mem_liveCredentials.mp second
        have same := sound.row_unique inOne inTwo
          (unique one inOne two inTwo liveOne liveTwo (ownOne.trans ownTwo.symm))
        rw [rows, same] at distinct
        exact absurd List.mem_cons_self (List.nodup_cons.mp distinct).1

theorem step_credentials (event : CredentialEvent) :
    (system.step hash event).credentials = system.credentials ∨
      (∃ id new, (system.step hash event).credentials = system.credentials ++ [new] ∧
        new.inserter = some id) ∨
      (∃ id key, (system.step hash event).credentials = system.credentials.map (markRow id key)) ∨
      (∃ id, (system.step hash event).credentials = (system.rolledBack id).credentials) ∨
      ∃ id session, event = .commit id ∧ system.sessions.get? id = some session ∧
        finished session = true ∧
        (system.step hash event).credentials = system.credentials.map (commitRow id) := by
  unfold CredentialSystem.step
  cases event with
  | start id request secrets now =>
    refine .inl ?_
    dsimp only
    split <;> rfl
  | statement id =>
    dsimp only
    split
    next session running =>
      unfold CredentialSystem.statement
      split
      next => exact .inl rfl
      next =>
        refine .inl ?_
        split
        next => rfl
        next => split <;> rfl
        next => split <;> rfl
      next => exact .inl rfl
      next =>
        unfold CredentialSystem.insert
        split
        next => exact .inl rfl
        next =>
          split
          next => exact .inr (.inr (.inr (.inl ⟨id, rfl⟩)))
          next => exact .inr (.inl ⟨id, _, rfl, rfl⟩)
      next => exact .inl rfl
    next => exact .inl rfl
  | lock id key =>
    dsimp only
    split
    next session running =>
      unfold CredentialSystem.lock
      split
      next =>
        split
        next =>
          split
          next => exact .inl rfl
          next =>
            split
            next => exact .inl rfl
            next =>
              split
              next => exact .inl rfl
              next => exact .inr (.inr (.inl ⟨id, key, rfl⟩))
        next => exact .inl rfl
      next => exact .inl rfl
    next => exact .inl rfl
  | commit id =>
    dsimp only
    split
    next session running =>
      split
      next done => exact .inr (.inr (.inr (.inr ⟨id, session, rfl, running, done, rfl⟩)))
      next => exact .inl rfl
    next => exact .inl rfl
  | fail id =>
    dsimp only
    split
    next => exact .inr (.inr (.inr (.inl ⟨id, rfl⟩)))
    next => exact .inl rfl

structure Continues (row later : Credential) : Prop where
  credentialId : later.credentialId = row.credentialId
  principalId : later.principalId = row.principalId
  tokenHash : later.tokenHash = row.tokenHash
  inserter : later.inserter = none
  revoked : row.revoked = true → later.revoked = true

theorem Continues.trans {three : Credential} (first : Continues one two)
    (second : Continues two three) : Continues one three where
  credentialId := second.credentialId.trans first.credentialId
  principalId := second.principalId.trans first.principalId
  tokenHash := second.tokenHash.trans first.tokenHash
  inserter := second.inserter
  revoked := fun revoked => second.revoked (first.revoked revoked)

theorem continues_step (event : CredentialEvent) (member : row ∈ system.credentials)
    (none : row.inserter = none) :
    ∃ later ∈ (system.step hash event).credentials, Continues row later := by
  have same : Continues row row := ⟨rfl, rfl, rfl, none, fun revoked => revoked⟩
  rcases @step_credentials hash system event with
    after | ⟨id, new, after, -⟩ | ⟨id, key, after⟩ | ⟨id, after⟩ | ⟨id, session, -, -, -, after⟩
  · exact ⟨row, after ▸ member, same⟩
  · exact ⟨row, after ▸ List.mem_append_left _ member, same⟩
  · refine ⟨_, after ▸ List.mem_map_of_mem member, ?_⟩
    exact ⟨by simp, by simp, by simp, by simp [none], by simp⟩
  · have stays : row ∈ system.credentials.filter (·.inserter ≠ some id) :=
      List.mem_filter.mpr ⟨member, by simp [none]⟩
    rw [after]
    exact ⟨_, List.mem_map_of_mem stays, rfl, rfl, rfl, none, fun revoked => revoked⟩
  · rw [after]
    refine ⟨_, List.mem_map_of_mem member, rfl, rfl, rfl, ?_, ?_⟩
    · simp [commitRow, none]
    · intro revoked
      simp [commitRow, revoked]

theorem live_step (event : CredentialEvent) {later : Credential}
    (member : later ∈ (system.step hash event).credentials) (live : later.live = true) :
    (∃ row ∈ system.credentials, row.live = true ∧ row.credentialId = later.credentialId ∧
      row.principalId = later.principalId) ∨
      ∃ id session, event = .commit id ∧ system.sessions.get? id = some session ∧
        ∃ row ∈ system.credentials, row.inserter = some id ∧
          row.credentialId = later.credentialId ∧ row.principalId = later.principalId := by
  rcases @step_credentials hash system event with
    after | ⟨id, new, after, inserter⟩ | ⟨id, key, after⟩ | ⟨id, after⟩ |
      ⟨id, session, same, running, -, after⟩
  · rw [after] at member
    exact .inl ⟨later, member, live, rfl, rfl⟩
  · rw [after] at member
    rcases Serial.of_mem_concat member with old | rfl
    · exact .inl ⟨later, old, live, rfl, rfl⟩
    · have none := (live_iff.mp live).1
      rw [inserter] at none
      cases none
  · rw [after] at member
    obtain ⟨row, there, rfl⟩ := List.mem_map.mp member
    refine .inl ⟨row, there, ?_, by simp, by simp⟩
    simpa [live_iff] using live
  · rw [after] at member
    obtain ⟨row, there, rfl⟩ := List.mem_map.mp member
    exact .inl ⟨row, List.mem_of_mem_filter there, live, rfl, rfl⟩
  · rw [after] at member
    obtain ⟨row, there, rfl⟩ := List.mem_map.mp member
    obtain ⟨none, unrevoked⟩ := live_iff.mp live
    by_cases own : row.inserter = some id
    · exact .inr ⟨id, session, same, running, row, there, own, rfl, rfl⟩
    · refine .inl ⟨row, there, live_iff.mpr ⟨?_, ?_⟩, rfl, rfl⟩
      · simpa [commitRow, own] using none
      · simp only [commitRow, Bool.or_eq_false_iff] at unrevoked
        exact unrevoked.1

theorem step_commit (running : system.sessions.get? id = some session)
    (phase : session.phase = .inserted observed) :
    system.step hash (.commit id) = system.committed id := by
  unfold CredentialSystem.step
  dsimp only
  rw [running]
  simp [finished, phase]

theorem revoker_of_current (sound : Sound system)
    (running : system.sessions.get? id = some session)
    (phase : session.phase = .inserted observed) (current : Current system (.commit id))
    (member : row ∈ system.credentials) (live : row.live = true)
    (owned : row.principalId = session.call.principalId) : row.revoker = some id := by
  have key := current session observed running phase row
    (mem_liveCredentials.mpr ⟨member, live, owned⟩)
  obtain ⟨old, there, named, -, written⟩ := sound.seen id session running row.credentialId
    (by rwa [phase])
  rw [sound.row_unique there member named, phase] at written
  rcases written with rest | revoked | revoker
  · exact absurd rest List.not_mem_nil
  · rw [(live_iff.mp live).2] at revoked
    cases revoked
  · exact revoker

theorem sole_of_current (sound : Sound system) (running : system.sessions.get? id = some session)
    (phase : session.phase = .inserted observed) (issues : session.call.issue? = some issue)
    (current : Current system (.commit id)) {later : Credential}
    (member : later ∈ (system.step hash (.commit id)).credentials) (live : later.live = true)
    (owned : later.principalId = issue.principalId) :
    later.credentialId = issue.credentialId := by
  rw [step_commit running phase] at member
  obtain ⟨row, there, rfl⟩ := List.mem_map.mp member
  obtain ⟨none, unrevoked⟩ := live_iff.mp live
  by_cases own : row.inserter = some id
  · obtain ⟨-, -, found, issue', seen, running', issues', -, key, -⟩ :=
      sound.inserting row there id own
    rw [running] at running'
    cases running'
    rw [issues] at issues'
    cases issues'
    exact key
  · have was : row.live = true := by
      refine live_iff.mpr ⟨by simpa [commitRow, own] using none, ?_⟩
      simp only [commitRow, Bool.or_eq_false_iff] at unrevoked
      exact unrevoked.1
    have revoker := revoker_of_current sound running phase current there was
      (owned.trans (issue_principalId issues).symm)
    simp [commitRow, revoker] at unrevoked

theorem single_step (sound : Sound system) (single : Single system)
    (current : Current system event) : Single (system.step hash event) := by
  rw [single_iff sound] at single
  rw [single_iff (sound.step event)]
  have newest : ∀ one ∈ (system.step hash event).credentials,
      ∀ two ∈ (system.step hash event).credentials, one.live = true → two.live = true →
      one.principalId = two.principalId →
      (∃ id session, event = .commit id ∧ system.sessions.get? id = some session ∧
        ∃ row ∈ system.credentials, row.inserter = some id ∧
          row.credentialId = one.credentialId ∧ row.principalId = one.principalId) →
      one.credentialId = two.credentialId := by
    rintro one first two second liveOne liveTwo same ⟨id, session, rfl, -, row, there, inserter, -,
      owner⟩
    obtain ⟨-, -, session, issue, seen, running, issues, phase, -, owned⟩ :=
      sound.inserting row there id inserter
    have ours : one.principalId = issue.principalId := owner.symm.trans owned
    rw [sole_of_current sound running phase issues current first liveOne ours,
      sole_of_current sound running phase issues current second liveTwo (same.symm.trans ours)]
  intro one first two second liveOne liveTwo same
  rcases live_step event first liveOne with ⟨rowOne, inOne, wasOne, keyOne, ownOne⟩ | new
  · rcases live_step event second liveTwo with ⟨rowTwo, inTwo, wasTwo, keyTwo, ownTwo⟩ | new
    · rw [← keyOne, ← keyTwo]
      exact single rowOne inOne rowTwo inTwo wasOne wasTwo
        (ownOne.trans (same.trans ownTwo.symm))
    · exact (newest two second one first liveTwo liveOne same.symm new).symm
  · exact newest one first two second liveOne liveTwo same new

theorem not_single_of_not_current (sound : Sound system) (stale : ¬ Current system event) :
    ¬ Single (system.step hash event) := by
  cases event with
  | commit id =>
    simp only [Current, not_forall] at stale
    obtain ⟨session, observed, running, phase, row, live, unseen⟩ := stale
    obtain ⟨member, live, owned⟩ := mem_liveCredentials.mp live
    obtain ⟨none, unrevoked⟩ := live_iff.mp live
    obtain ⟨new, there, inserter⟩ := sound.inserted id session observed running phase
    obtain ⟨fresh, unwritten, own, issue, seen, found, issues, -, -, principal⟩ :=
      sound.inserting new there id inserter
    rw [running] at found
    cases found
    have unmarked : row.revoker ≠ some id := by
      intro revoker
      obtain ⟨own, found, seen⟩ := sound.revoking row member id revoker
      rw [running] at found
      cases found
      rw [phase] at seen
      exact unseen seen
    intro single
    rw [single_iff (sound.step _), step_commit running phase] at single
    have same := single (commitRow id row) (List.mem_map_of_mem member) (commitRow id new)
      (List.mem_map_of_mem there)
      (live_iff.mpr ⟨by simp [commitRow, none], by simp [commitRow, unrevoked, unmarked]⟩)
      (live_iff.mpr ⟨by simp [commitRow, inserter], by simp [commitRow, fresh, unwritten]⟩)
      (owned.trans ((issue_principalId issues).trans principal.symm))
    have one := sound.row_unique member there same
    rw [one, inserter] at none
    cases none
  | start id request secrets now => exact absurd trivial stale
  | statement id => exact absurd trivial stale
  | lock id key => exact absurd trivial stale
  | fail id => exact absurd trivial stale

end Rows

section Runs

variable {hash : String → String} {start system : CredentialSystem} {events : List CredentialEvent}
  {row : Credential} {token principalId : String}

def Authenticates (hash : String → String) (system : CredentialSystem)
    (token principalId : String) : Prop :=
  ∃ allowedTypes credentialId,
    system.authenticateCredential hash token allowedTypes = some (principalId, credentialId)

/-- A token that was accepted before a rotation of its principal has been committed is not
accepted afterwards. -/
def RotationsRevoke (hash : String → String) (start : CredentialSystem)
    (events : List CredentialEvent) : Prop :=
  ∀ earlier middle id later session issue seen token,
    (earlier ++ middle ++ .commit id :: later) <+: events →
    (exec (step hash) start (earlier ++ middle)).sessions.get? id = some session →
    session.call = .rotate issue → session.phase = .inserted seen →
    Authenticates hash (exec (step hash) start earlier) token issue.principalId →
    ∀ principalId, ¬ Authenticates hash
      (exec (step hash) start (earlier ++ middle ++ .commit id :: later)) token principalId

theorem row_of_authenticates (accepted : Authenticates hash system token principalId) :
    ∃ row ∈ system.credentials, row.live = true ∧ row.tokenHash = hash token ∧
      row.principalId = principalId := by
  obtain ⟨allowedTypes, credentialId, accepted⟩ := accepted
  obtain ⟨-, -, accepted⟩ := Option.bind_eq_some_iff.mp accepted
  obtain ⟨row, found, accepted⟩ := Option.bind_eq_some_iff.mp accepted
  obtain ⟨type, -, accepted⟩ := Option.bind_eq_some_iff.mp accepted
  obtain ⟨-, -, accepted⟩ := Option.bind_eq_some_iff.mp accepted
  obtain ⟨same, -⟩ := Prod.mk.inj (Option.some.inj accepted)
  have meets := List.find?_some found
  simp only [Bool.and_eq_true, decide_eq_true_eq] at meets
  exact ⟨row, List.mem_of_find?_eq_some found, meets.1.2, meets.1.1, same⟩

theorem sound_exec (sound : Sound start) (events : List CredentialEvent) :
    Sound (exec (step hash) start events) :=
  invariant (fun _ event sound => sound.step event) sound events

theorem continues_exec (member : row ∈ start.credentials) (none : row.inserter = none)
    (events : List CredentialEvent) :
    ∃ later ∈ (exec (step hash) start events).credentials, Continues row later := by
  induction events generalizing start row with
  | nil => exact ⟨row, member, rfl, rfl, rfl, none, fun revoked => revoked⟩
  | cons event events ih =>
    obtain ⟨next, there, first⟩ := continues_step event member none
    obtain ⟨later, last, rest⟩ := ih there first.inserter
    exact ⟨later, last, first.trans rest⟩

theorem not_authenticates_of_revoked (sound : Sound system) (member : row ∈ system.credentials)
    (hashed : row.tokenHash = hash token) (revoked : row.revoked = true) :
    ¬ Authenticates hash system token principalId := by
  intro accepted
  obtain ⟨other, there, live, same, -⟩ := row_of_authenticates accepted
  rw [sound.token_unique there member (same.trans hashed.symm)] at live
  rw [(live_iff.mp live).2] at revoked
  cases revoked

theorem rotationsRevoke_of_meets (sound : Sound start)
    (current : Meets (step hash) Current start events) : RotationsRevoke hash start events := by
  intro earlier middle id later session issue seen token part running rotates phase accepted
    principalId
  obtain ⟨rest, rfl⟩ := part
  rw [List.append_assoc, meets_append] at current
  obtain ⟨current, -⟩ := current.2
  obtain ⟨row, member, live, hashed, owned⟩ := row_of_authenticates accepted
  obtain ⟨next, there, same⟩ := continues_exec member (live_iff.mp live).1 middle
  rw [← exec_append] at there
  have before := @sound_exec hash _ sound (earlier ++ middle)
  have revoked : ∃ last ∈ (step hash (exec (step hash) start (earlier ++ middle))
      (.commit id)).credentials, Continues row last ∧ last.revoked = true := by
    rw [step_commit running phase]
    refine ⟨commitRow id next, List.mem_map_of_mem there, ?_, ?_⟩
    · refine same.trans ⟨rfl, rfl, rfl, ?_, fun revoked => ?_⟩
      · simp [commitRow, same.inserter]
      · simp [commitRow, revoked]
    · by_cases still : next.revoked = true
      · simp [commitRow, still]
      · rw [Bool.not_eq_true] at still
        have inForce : next.live = true := live_iff.mpr ⟨same.inserter, still⟩
        have principal : next.principalId = session.call.principalId := by
          rw [same.principalId, owned, rotates, CredentialCall.principalId]
        have revoker := revoker_of_current before running phase current there inForce principal
        simp [commitRow, revoker]
  obtain ⟨last, after, whole, gone⟩ := revoked
  obtain ⟨final, ends, kept⟩ := @continues_exec hash _ _ after whole.inserter later
  rw [exec_append, exec_cons]
  exact not_authenticates_of_revoked
    (sound_exec ((before.step (.commit id))) later) ends
    (kept.tokenHash.trans (whole.tokenHash.trans hashed)) (kept.revoked gone)

/-- The runs in which a principal never has two credentials in force, and in which every rotation
revokes the tokens that were accepted before it, are those that meet the condition. -/
theorem rotation_revokes_iff (hash : String → String) (events : List CredentialEvent) :
    Throughout (step hash) Single {} events ∧ RotationsRevoke hash {} events ↔
      Meets (step hash) Current {} events := by
  have single : Single {} := fun principalId => Nat.zero_le _
  have iff : Throughout (step hash) Single {} events ↔ Meets (step hash) Current {} events := by
    refine @throughout_iff_meets _ _ (step hash) Single
      (fun system => Sound system ∧ Single system) Current _ events ?_ ?_ ?_ ⟨sound_empty, single⟩
    · rintro system event ⟨sound, single⟩ current
      exact ⟨sound.step event, single_step sound single current⟩
    · exact fun system sound => sound.2
    · rintro system event ⟨sound, -⟩ stale
      exact not_single_of_not_current sound stale
  constructor
  · exact fun holds => iff.mp holds.1
  · exact fun current => ⟨iff.mpr current, rotationsRevoke_of_meets sound_empty current⟩

end Runs

/-- Two rotations of one node, each of which runs its `UPDATE` before the other has committed. -/
def sampleRotations : List CredentialEvent :=
  [.start 1 (.rotateNodeCredential "milling-workshop-01") ⟨"one", "1"⟩ 1,
    .start 2 (.rotateNodeCredential "milling-workshop-01") ⟨"two", "2"⟩ 2,
    .statement 1, .statement 1, .statement 1, .statement 2, .statement 2, .statement 2,
    .statement 1, .statement 2, .commit 1, .commit 2]

/-- Both credentials stay in force, and the token that was accepted before the second rotation is
accepted after it. -/
theorem concurrent_rotations_in_force :
    ((exec (step id) {} sampleRotations).liveCredentials "node:milling-workshop-01").length = 2 ∧
      Authenticates id (exec (step id) {} (sampleRotations.take 11)) "mogas_node_one"
        "node:milling-workshop-01" ∧
      Authenticates id (exec (step id) {} sampleRotations) "mogas_node_one"
        "node:milling-workshop-01" ∧
      ¬ (Throughout (step id) Single {} sampleRotations ∧
        RotationsRevoke id {} sampleRotations) := by
  have two : ((exec (step id) {} sampleRotations).liveCredentials
      "node:milling-workshop-01").length = 2 := by
    decide +kernel
  refine ⟨two, ⟨[.node], "cred_1", by decide +kernel⟩, ⟨[.node], "cred_1", by decide +kernel⟩,
    fun holds => ?_⟩
  have one := holds.1.last "node:milling-workshop-01"
  omega

end CredentialSystem

end MiniOgas
