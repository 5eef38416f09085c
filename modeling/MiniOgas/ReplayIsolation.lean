import MiniOgas.RunIdentity

namespace MiniOgas

open Serial

variable {env : FactEnv} {store store' live : FactStore} {payload : Fields}
  {fact : HeartbeatFact} {newest : List HeartbeatFact} {call : FactCall} {reply : FactReply}
  {rows rows' : List ShadowRow} {row other : ShadowRow} {nodeCode : String} {now : Timestamp}

theorem laterReceived_total (row other : ShadowRow) :
    row.laterReceived other ∨ other.laterReceived row := by
  rcases lt_trichotomy row.receivedAt other.receivedAt with earlier | same | later
  · exact .inr (.inl earlier)
  · rcases Nat.le_total other.id row.id with le | ge
    · exact .inl (.inr ⟨same.symm, le⟩)
    · exact .inr (.inr ⟨same, ge⟩)
  · exact .inl (.inl later)

theorem laterReceived_trans {mid : ShadowRow} (first : row.laterReceived mid)
    (second : mid.laterReceived other) : row.laterReceived other := by
  rcases first with later | ⟨same, le⟩
  · rcases second with later' | ⟨same', -⟩
    · exact .inl (lt_trans later' later)
    · exact .inl (same' ▸ later)
  · rcases second with later' | ⟨same', le'⟩
    · exact .inl (same ▸ later')
    · exact .inr ⟨same'.trans same, Nat.le_trans le' le⟩

instance : Std.Total ShadowRow.laterReceived := ⟨laterReceived_total⟩

instance : IsTrans ShadowRow ShadowRow.laterReceived := ⟨fun _ _ _ => laterReceived_trans⟩

instance : Std.Total ShadowRow.laterStored := ⟨fun row other => Nat.le_total other.id row.id⟩

instance : IsTrans ShadowRow ShadowRow.laterStored := ⟨fun _ _ _ first second =>
  Nat.le_trans second first⟩

theorem laterReceived_refl (row : ShadowRow) : row.laterReceived row := .inr ⟨rfl, le_refl _⟩

theorem id_eq_of_laterReceived (first : row.laterReceived other)
    (second : other.laterReceived row) : row.id = other.id := by
  rcases first with later | ⟨same, le⟩
  · rcases second with later' | ⟨same', -⟩
    · exact absurd later' (lt_asymm later)
    · exact absurd same'.symm (ne_of_lt later)
  · rcases second with later' | ⟨-, le'⟩
    · exact absurd same.symm (ne_of_lt later')
    · exact Nat.le_antisymm le' le

theorem mem_retainNode {before : ShadowRow → ShadowRow → Prop} [DecidableRel before]
    [Std.Total before] [IsTrans ShadowRow before] {limit : Int} (member : row ∈ rows)
    (first : row.nodeCode = nodeCode → ∀ other ∈ rows, other.nodeCode = nodeCode →
      before other row → other.id = row.id) :
    row ∈ retainNode before nodeCode limit rows := by
  unfold retainNode
  split
  next => exact member
  next bounded =>
    refine List.mem_filter.mpr ⟨member, ?_⟩
    by_cases own : row.nodeCode = nodeCode
    · have there : row ∈ (rows.filter (·.nodeCode = nodeCode)).insertionSort before := by
        rw [List.mem_insertionSort]
        exact List.mem_filter.mpr ⟨member, by simpa using own⟩
      have ordered := List.pairwise_insertionSort before (rows.filter (·.nodeCode = nodeCode))
      have members : ∀ other ∈ (rows.filter (·.nodeCode = nodeCode)).insertionSort before,
          other ∈ rows ∧ other.nodeCode = nodeCode := by
        intro other there
        rw [List.mem_insertionSort, List.mem_filter] at there
        exact ⟨there.1, by simpa using there.2⟩
      obtain ⟨n, positive⟩ : ∃ n, limit.toNat = n + 1 := ⟨limit.toNat - 1, by omega⟩
      generalize (rows.filter (·.nodeCode = nodeCode)).insertionSort before = sorted at *
      cases sorted with
      | nil => cases there
      | cons top rest =>
        have same : top.id = row.id := by
          rcases List.mem_cons.mp there with rfl | later
          · rfl
          · obtain ⟨present, ofNode⟩ := members top List.mem_cons_self
            exact first own top present ofNode ((List.pairwise_cons.mp ordered).1 row later)
        rw [positive, List.take_succ_cons, List.map_cons, same]
        simp
    · simp [own]

theorem retainNode_sublist (before : ShadowRow → ShadowRow → Prop) [DecidableRel before]
    (limit : Int) (rows : List ShadowRow) :
    (retainNode before nodeCode limit rows).Sublist rows := by
  unfold retainNode
  split
  next => exact List.Sublist.refl rows
  next => exact List.filter_sublist

def latestFact (nodeCode : String) (newest : List HeartbeatFact) : Option HeartbeatFact :=
  newest.find? (·.nodeCode = nodeCode)

def factRank (nodeCode : String) : List HeartbeatFact → Nat
  | [] => 0
  | fact :: older => if fact.nodeCode = nodeCode then older.length + 1 else factRank nodeCode older

theorem factRank_le (nodeCode : String) (newest : List HeartbeatFact) :
    factRank nodeCode newest ≤ newest.length := by
  induction newest with
  | nil => exact le_refl 0
  | cons fact older ih =>
    rw [factRank, List.length_cons]
    split <;> omega

structure Tops (rows : List ShadowRow) (nodeCode : String) (row : ShadowRow) : Prop where
  member : row ∈ rows
  ofNode : row.nodeCode = nodeCode
  last : ∀ other ∈ rows, other.nodeCode = nodeCode → row.laterReceived other

structure LatestStored (env : FactEnv) (store : FactStore) (newest : List HeartbeatFact) :
    Prop where
  increasing : (store.heartbeats.map (·.id)).Pairwise (· < ·)
  below : ∀ row ∈ store.heartbeats, row.id ≤ store.lastId
  sent : ∀ row ∈ store.heartbeats, ∃ fact, latestFact row.nodeCode newest = some fact
  stored : ∀ nodeCode fact, latestFact nodeCode newest = some fact →
    ∃ row, Tops store.heartbeats nodeCode row ∧ row.payload = fact.payload ∧
      row.receivedAt = env.stored fact.receivedAt
  ordered : ∀ nodeCode row otherCode other, Tops store.heartbeats nodeCode row →
    Tops store.heartbeats otherCode other → row.id < other.id →
      factRank nodeCode newest < factRank otherCode newest

theorem row_eq_of_id (increasing : (rows.map (·.id)).Pairwise (· < ·)) (member : row ∈ rows)
    (there : other ∈ rows) (same : row.id = other.id) : row = other :=
  List.inj_on_of_nodup_map (increasing.imp fun lt => Nat.ne_of_lt lt) member there same

theorem Tops.unique (increasing : (rows.map (·.id)).Pairwise (· < ·))
    (first : Tops rows nodeCode row) (second : Tops rows nodeCode other) : row = other :=
  row_eq_of_id increasing first.member second.member
    (id_eq_of_laterReceived (first.last other second.member second.ofNode)
      (second.last row first.member first.ofNode))

theorem LatestStored.retain (latest : LatestStored env store newest)
    (subset : rows'.Sublist store.heartbeats)
    (spared : ∀ nodeCode row, Tops store.heartbeats nodeCode row → row ∈ rows') :
    LatestStored env { store with heartbeats := rows' } newest := by
  have back : ∀ nodeCode row, Tops rows' nodeCode row → Tops store.heartbeats nodeCode row := by
    intro nodeCode row tops
    have present := subset.subset tops.member
    obtain ⟨fact, sent⟩ := latest.sent row present
    rw [tops.ofNode] at sent
    obtain ⟨top, isTop, -⟩ := latest.stored nodeCode fact sent
    have same := row_eq_of_id latest.increasing present isTop.member (id_eq_of_laterReceived
      (tops.last top (spared nodeCode top isTop) isTop.ofNode)
      (isTop.last row present tops.ofNode))
    rwa [same]
  refine ⟨latest.increasing.sublist (subset.map _), fun row member =>
    latest.below row (subset.subset member), fun row member =>
    latest.sent row (subset.subset member), fun nodeCode fact found => ?_,
    fun nodeCode row otherCode other first second => latest.ordered nodeCode row otherCode other
      (back nodeCode row first) (back otherCode other second)⟩
  obtain ⟨row, tops, is⟩ := latest.stored nodeCode fact found
  exact ⟨row, ⟨spared nodeCode row tops, tops.ofNode, fun other member =>
    tops.last other (subset.subset member)⟩, is⟩

theorem increasing_insert (latest : LatestStored env store newest)
    (new : row.id = store.lastId + 1) :
    ((store.heartbeats ++ [row]).map (·.id)).Pairwise (· < ·) := by
  rw [List.map_append, List.pairwise_append]
  refine ⟨latest.increasing, List.pairwise_singleton _ _, fun id old other last => ?_⟩
  obtain ⟨stored, member, rfl⟩ := List.mem_map.mp old
  have le := latest.below stored member
  rw [List.map_singleton, List.mem_singleton] at last
  omega

theorem tops_insert_iff (other : row.nodeCode ≠ nodeCode) {top : ShadowRow} :
    Tops (rows ++ [row]) nodeCode top ↔ Tops rows nodeCode top := by
  constructor
  · intro tops
    refine ⟨?_, tops.ofNode, fun old member =>
      tops.last old (List.mem_append_left _ member)⟩
    rcases List.mem_append.mp tops.member with old | new
    · exact old
    · exact absurd (List.mem_singleton.mp new ▸ tops.ofNode) other
  · intro tops
    refine ⟨List.mem_append_left _ tops.member, tops.ofNode, fun old member ofNode => ?_⟩
    rcases of_mem_concat member with member | rfl
    · exact tops.last old member ofNode
    · exact absurd (ofNode) other

theorem LatestStored.insert_top (latest : LatestStored env store newest)
    (new : row.id = store.lastId + 1)
    (is : row.nodeCode = fact.nodeCode ∧ row.receivedAt = env.stored fact.receivedAt)
    (later : ∀ old, latestFact fact.nodeCode newest = some old →
      env.stored old.receivedAt ≤ env.stored fact.receivedAt) :
    Tops (store.heartbeats ++ [row]) fact.nodeCode row := by
  refine ⟨List.mem_append_right _ List.mem_cons_self, is.1, fun old member ofNode => ?_⟩
  rcases of_mem_concat member with there | rfl
  · obtain ⟨sent, found⟩ := latest.sent old there
    rw [ofNode] at found
    obtain ⟨first, tops, -, received⟩ := latest.stored _ _ found
    have le := later sent found
    rw [← received, ← is.2] at le
    rcases tops.last old there ofNode with earlier | ⟨same, -⟩
    · exact .inl (lt_of_lt_of_le earlier le)
    · have id := latest.below old there
      rcases lt_or_eq_of_le (same ▸ le) with earlier | equal
      · exact .inl earlier
      · exact .inr ⟨equal, by omega⟩
  · exact laterReceived_refl _

theorem LatestStored.insert (latest : LatestStored env store newest)
    (new : row.id = store.lastId + 1)
    (is : row.nodeCode = fact.nodeCode ∧ row.payload = fact.payload ∧
      row.receivedAt = env.stored fact.receivedAt)
    (later : ∀ old, latestFact fact.nodeCode newest = some old →
      env.stored old.receivedAt ≤ env.stored fact.receivedAt)
    (left : store'.heartbeats = store.heartbeats ++ [row])
    (lastId : store'.lastId = store.lastId + 1) : LatestStored env store' (fact :: newest) := by
  have top : Tops store'.heartbeats fact.nodeCode row := by
    rw [left]
    exact latest.insert_top new ⟨is.1, is.2.2⟩ later
  have increasing : (store'.heartbeats.map (·.id)).Pairwise (· < ·) := by
    rw [left]
    exact increasing_insert latest new
  have others : ∀ code stored, code ≠ fact.nodeCode →
      (Tops store'.heartbeats code stored ↔ Tops store.heartbeats code stored) := by
    intro code stored other
    rw [left]
    exact tops_insert_iff (by rw [is.1]; exact other.symm)
  have skip : ∀ code, code ≠ fact.nodeCode →
      latestFact code (fact :: newest) = latestFact code newest ∧
        factRank code (fact :: newest) = factRank code newest := by
    intro code other
    exact ⟨List.find?_cons_of_neg (by simpa using other.symm), if_neg other.symm⟩
  have own : latestFact fact.nodeCode (fact :: newest) = some fact := by simp [latestFact]
  refine ⟨increasing, fun old member => ?_, fun old member => ?_, fun code sent found => ?_,
    fun code first otherCode second tops tops' lt => ?_⟩
  · rw [left] at member
    rw [lastId]
    rcases of_mem_concat member with there | rfl
    · exact Nat.le_succ_of_le (latest.below old there)
    · rw [new]
  · by_cases same : old.nodeCode = fact.nodeCode
    · exact ⟨fact, by rw [same]; exact own⟩
    · rw [left] at member
      rw [(skip _ same).1]
      rcases of_mem_concat member with there | rfl
      · exact latest.sent old there
      · exact absurd (is.1) same
  · by_cases same : code = fact.nodeCode
    · rw [same] at found ⊢
      rw [own] at found
      cases found
      exact ⟨row, top, is.2⟩
    · rw [(skip _ same).1] at found
      obtain ⟨first, tops, stored⟩ := latest.stored code sent found
      exact ⟨first, (others code first same).mpr tops, stored⟩
  · by_cases same : code = fact.nodeCode
    · have twin : first = row := (same ▸ tops).unique increasing top
      have le : second.id ≤ store.lastId + 1 := by
        have member := tops'.member
        rw [left] at member
        rcases of_mem_concat member with there | rfl
        · exact Nat.le_succ_of_le (latest.below second there)
        · rw [new]
      rw [twin] at lt
      omega
    · rw [(skip _ same).2]
      by_cases own : otherCode = fact.nodeCode
      · have rank : factRank otherCode (fact :: newest) = newest.length + 1 := if_pos own.symm
        have le := factRank_le code newest
        omega
      · rw [(skip _ own).2]
        exact latest.ordered code first otherCode second ((others _ _ same).mp tops)
          ((others _ _ own).mp tops') lt

theorem LatestStored.archive (latest : LatestStored env store newest)
    (new : row.id = store.lastId + 1)
    (older : ∃ sent, latestFact row.nodeCode newest = some sent ∧
      row.receivedAt < env.stored sent.receivedAt)
    (left : store'.heartbeats = store.heartbeats ++ [row])
    (lastId : store'.lastId = store.lastId + 1) : LatestStored env store' newest := by
  obtain ⟨sent, found, earlier⟩ := older
  obtain ⟨top, isTop, -, received⟩ := latest.stored _ _ found
  rw [← received] at earlier
  have kept : ∀ code stored, Tops store.heartbeats code stored →
      Tops store'.heartbeats code stored := by
    intro code stored tops
    rw [left]
    by_cases own : row.nodeCode = code
    · have twin : stored = top := tops.unique latest.increasing (own ▸ isTop)
      refine ⟨List.mem_append_left _ tops.member, tops.ofNode, fun old member ofNode => ?_⟩
      rcases of_mem_concat member with there | rfl
      · exact tops.last old there ofNode
      · rw [twin]
        exact .inl earlier
    · exact (tops_insert_iff own).mpr tops
  have back : ∀ code stored, Tops store'.heartbeats code stored →
      Tops store.heartbeats code stored := by
    intro code stored tops
    rw [left] at tops
    by_cases own : row.nodeCode = code
    · have first := tops.last top (List.mem_append_left _ isTop.member) (isTop.ofNode.trans own)
      rcases List.mem_append.mp tops.member with there | last
      · exact ⟨there, tops.ofNode, fun old member => tops.last old (List.mem_append_left _ member)⟩
      · rw [List.mem_singleton.mp last] at first
        rcases first with later | ⟨same, -⟩
        · exact absurd later (lt_asymm earlier)
        · exact absurd same.symm (ne_of_lt earlier)
    · exact (tops_insert_iff own).mp tops
  refine ⟨?_, fun old member => ?_, fun old member => ?_, fun code fact found => ?_,
    fun code first otherCode second tops tops' =>
      latest.ordered code first otherCode second (back _ _ tops) (back _ _ tops')⟩
  · rw [left]
    exact increasing_insert latest new
  · rw [left] at member
    rw [lastId]
    rcases of_mem_concat member with there | rfl
    · exact Nat.le_succ_of_le (latest.below old there)
    · rw [new]
  · rw [left] at member
    rcases of_mem_concat member with there | rfl
    · exact latest.sent old there
    · exact ⟨sent, found⟩
  · obtain ⟨first, tops, stored⟩ := latest.stored code fact found
    exact ⟨first, kept code first tops, stored⟩

theorem LatestStored.write (latest : LatestStored env store newest)
    (later : ∀ old, latestFact fact.nodeCode newest = some old →
      env.stored old.receivedAt ≤ env.stored fact.receivedAt) :
    LatestStored env (store.writeFact env fact) (fact :: newest) := by
  let row : ShadowRow := ⟨store.lastId + 1, fact.nodeCode, fact.runId, fact.scenarioId,
    fact.simulationTime, fact.payload, env.stored fact.receivedAt⟩
  have inserted : LatestStored env (store.insertHeartbeat fact.nodeCode fact.runId fact.scenarioId
      fact.simulationTime fact.payload (env.stored fact.receivedAt)) (fact :: newest) :=
    @LatestStored.insert env store _ fact newest row latest rfl ⟨rfl, rfl, rfl⟩ later rfl rfl
  have top : Tops (store.heartbeats ++ [row]) fact.nodeCode row :=
    latest.insert_top rfl ⟨rfl, rfl⟩ later
  have retained := inserted.retain (@retainNode_sublist fact.nodeCode ShadowRow.laterStored _
    env.retentionPerNode _) fun code stored tops => ?_
  · exact { retained with }
  · refine mem_retainNode tops.member fun own other member _ before => ?_
    have same : stored = row := by
      rw [← own, tops.ofNode] at top
      exact tops.unique inserted.increasing top
    have le : other.id ≤ store.lastId + 1 := inserted.below other member
    have ge : stored.id ≤ other.id := before
    have id : stored.id = store.lastId + 1 := by rw [same]
    omega

/-- Every replayed record is older than a heartbeat of the node that is stored, in the order in
which the database keeps their times. -/
def OlderRecords (env : FactEnv) (store : FactStore) (now : Timestamp) (nodeCode : String)
    (records : List Fields) : Prop :=
  ∀ record ∈ records, ∀ localId payload createdAt, recordPayload env localId record = .ok payload →
    env.storeTime (recordCreatedAt env now record payload) = .ok createdAt →
      ∃ row ∈ store.heartbeats, row.nodeCode = nodeCode ∧ createdAt < row.receivedAt

/-- A heartbeat that arrives is not older than the rows of its node, and a replayed record is. -/
def KeepsLatest (env : FactEnv) (store : FactStore) (call : FactCall) : Prop :=
  match call.operation with
  | .live payload _ => ∀ row ∈ store.heartbeats,
    row.nodeCode = textOr env.store (payload.get "node_code") "" →
      row.receivedAt ≤ env.stored call.now
  | .sync nodeCode records => OlderRecords env store call.now nodeCode records

theorem LatestStored.archiveRecord (latest : LatestStored env store newest) {localId : Int}
    {record : Fields} {accepted : Bool}
    (older : ∀ payload createdAt, recordPayload env localId record = .ok payload →
      env.storeTime (recordCreatedAt env now record payload) = .ok createdAt →
      ∃ sent, latestFact nodeCode newest = some sent ∧ createdAt < env.stored sent.receivedAt)
    (done : archiveRecord env now nodeCode store localId record = .ok (accepted, store')) :
    LatestStored env store' newest := by
  obtain ⟨payload, read, done⟩ := of_bind done
  replace done := of_then done
  dsimp only at done
  split at done
  next =>
    replace done := of_then done
    cases done
    exact latest
  next =>
    obtain ⟨createdAt, created, done⟩ := of_bind done
    cases done
    let row : ShadowRow := ⟨store.lastId + 1, nodeCode, runtimeText env.store payload "run_id",
      runtimeText env.store payload "scenario_id", runtimeField payload "simulation_time",
      archivedPayload nodeCode localId (recordCreatedAt env now record payload) now payload,
      createdAt⟩
    exact @LatestStored.archive env store _ newest row latest rfl
      (older payload createdAt read created) rfl rfl

theorem LatestStored.sync (latest : LatestStored env store newest) {records : List Fields}
    {counts : Nat × Nat} (older : OlderRecords env store now nodeCode records)
    (done : persistSyncedNodeRecords env now nodeCode records store = .ok (counts, store')) :
    LatestStored env store' newest := by
  obtain ⟨numbered, sorted, done⟩ := of_bind done
  obtain ⟨⟨counted, archived⟩, looped, done⟩ := of_bind done
  cases done
  have members : ∀ record ∈ numbered, record.2 ∈ records := by
    obtain ⟨unsorted, reads, sorted⟩ := of_bind sorted
    cases sorted
    intro record member
    rw [List.mem_insertionSort] at member
    obtain ⟨source, there, numbered⟩ := mapM_mem reads member
    obtain ⟨localId, -, numbered⟩ := of_bind numbered
    cases numbered
    exact there
  have sent : ∀ record ∈ records, ∀ localId payload createdAt,
      recordPayload env localId record = .ok payload →
      env.storeTime (recordCreatedAt env now record payload) = .ok createdAt →
      ∃ sent, latestFact nodeCode newest = some sent ∧ createdAt < env.stored sent.receivedAt := by
    intro record member localId payload createdAt read created
    obtain ⟨row, there, ofNode, earlier⟩ :=
    older record member localId payload createdAt read created
    obtain ⟨fact, found⟩ := latest.sent row there
    rw [ofNode] at found
    obtain ⟨top, tops, -, received⟩ := latest.stored nodeCode fact found
    refine ⟨fact, found, ?_⟩
    rw [← received]
    rcases tops.last row there ofNode with later | ⟨same, -⟩
    · exact lt_trans earlier later
    · exact same ▸ earlier
  have archives : LatestStored env archived newest := by
    refine foldlM_invariant (I := fun round : (Nat × Nat) × FactStore =>
      LatestStored env round.2 newest) ?_ latest looped
    intro round record round' member kept done
    obtain ⟨⟨accepted, left⟩, archives, done⟩ := of_bind done
    cases done
    exact kept.archiveRecord (sent record.2 (members record member) record.1) archives
  refine archives.retain (retainNode_sublist ShadowRow.laterReceived env.retentionPerNode _)
    fun code top tops => mem_retainNode tops.member fun own other member ofNode before => ?_
  exact id_eq_of_laterReceived before
    (tops.last other member (ofNode.trans (own.symm.trans tops.ofNode)))

def FactCall.isLive (call : FactCall) : Bool :=
  match call.operation with
  | .live _ _ => true
  | .sync _ _ => false

structure Twins (env : FactEnv) (store live : FactStore) (newest : List HeartbeatFact) : Prop where
  runs : live.runs = store.runs
  scenarios : live.scenarios = store.scenarios
  stored : LatestStored env store newest
  liveStored : LatestStored env live newest

theorem persistHeartbeat_twin {enqueued : Bool} (runs : live.runs = store.runs)
    (scenarios : live.scenarios = store.scenarios)
    (done : persistHeartbeat env payload enqueued store = .ok (fact, store')) :
    persistHeartbeat env payload enqueued live = .ok (fact, live.writeFact env fact) := by
  obtain ⟨read, reads, done⟩ := of_bind done
  obtain ⟨_, run, done⟩ := of_bind done
  obtain ⟨_, scenario, done⟩ := of_bind done
  obtain ⟨_, taken, done⟩ := of_bind done
  cases done
  have liveRun : checkRunRow live fact.runId fact.scenarioId fact.randomSeed = .ok () := by
    unfold checkRunRow at run ⊢
    rw [runs]
    exact run
  have liveScenario : checkScenarioRow live fact.scenarioId fact.simulationEngine
      fact.randomSeed = .ok () := by
    unfold checkScenarioRow at scenario ⊢
    rw [scenarios]
    exact scenario
  unfold persistHeartbeat
  rw [reads, ok_bind, liveRun, ok_bind, liveScenario, ok_bind, taken]
  rfl

theorem attempt_live_twin {enqueued : Bool} (runs : live.runs = store.runs)
    (scenarios : live.scenarios = store.scenarios)
    (done : FactCall.attempt env ⟨now, .live payload enqueued⟩ store = .ok (reply, store')) :
    ∃ fact, reply = .persisted fact ∧ store' = store.writeFact env fact ∧
      FactCall.attempt env ⟨now, .live payload enqueued⟩ live =
        .ok (.persisted fact, live.writeFact env fact) ∧
      fact.nodeCode = textOr env.store (payload.get "node_code") "" ∧ fact.receivedAt = now := by
  obtain ⟨⟨fact, left⟩, persisted, done⟩ := of_bind done
  cases done
  obtain ⟨reads, -, -, rfl⟩ := persistHeartbeat_ok persisted
  have twin := persistHeartbeat_twin runs scenarios persisted
  obtain ⟨ofNode, -, -, -, received⟩ := readFact_ok reads
  refine ⟨fact, rfl, rfl, ?_, ?_, ?_⟩
  · exact bind_eq_ok.mpr ⟨_, twin, rfl⟩
  · rw [ofNode, Fields.get_set, if_neg (by decide)]
  · rw [Fields.get_set, if_pos rfl] at received
    exact (Json.time.inj received).symm

theorem writeFact_runs (runs : live.runs = store.runs)
    (scenarios : live.scenarios = store.scenarios)
    (fact : HeartbeatFact) :
    (live.writeFact env fact).runs = (store.writeFact env fact).runs ∧
      (live.writeFact env fact).scenarios = (store.writeFact env fact).scenarios := by
  unfold FactStore.writeFact
  rw [runs, scenarios]
  exact ⟨rfl, rfl⟩

theorem serve_error {fault : StoreFault} (failed : call.attempt env store = .error fault) :
    (factAuthority env).serve store call = store := by
  simp [Authority.serve, factAuthority, failed]

theorem serve_ok (done : call.attempt env store = .ok (reply, store')) :
    (factAuthority env).serve store call = store' :=
  Authority.serve_of_ok (A := factAuthority env) done

theorem twins_run (calls : List FactCall) (twins : Twins env store live newest)
    (along : (factAuthority env).Along (KeepsLatest env) store calls) :
    Twins env ((factAuthority env).run store calls)
      ((factAuthority env).run live (calls.filter FactCall.isLive))
      ((acceptedFacts env store calls).reverse ++ newest) := by
  induction calls generalizing store live newest with
  | nil => exact twins
  | cons call calls ih =>
    obtain ⟨keeps, along⟩ := along
    obtain ⟨runs, scenarios, stored, liveStored⟩ := twins
    obtain ⟨now, operation⟩ := call
    rw [acceptedFacts, List.reverse_append, List.append_assoc, Authority.run_cons]
    cases operation with
    | live payload enqueued =>
      refine ih ?_ along
      rcases attempted : FactCall.attempt env ⟨now, .live payload enqueued⟩ store with
        fault | ⟨reply, left⟩
      · have refused : ∃ fault, FactCall.attempt env ⟨now, .live payload enqueued⟩ live =
            .error fault := by
          rcases other : FactCall.attempt env ⟨now, .live payload enqueued⟩ live with
            fault | ⟨reply, left⟩
          · exact ⟨fault, rfl⟩
          · obtain ⟨fact, -, -, done, -⟩ := attempt_live_twin runs.symm scenarios.symm other
            rw [attempted] at done
            cases done
        obtain ⟨fault, refused⟩ := refused
        rw [serve_error attempted, serve_error refused]
        exact ⟨runs, scenarios, stored, liveStored⟩
      · obtain ⟨fact, rfl, rfl, done, ofNode, received⟩ :=
          attempt_live_twin runs scenarios attempted
        rw [serve_ok attempted, serve_ok done]
        have later : ∀ old, latestFact fact.nodeCode newest = some old →
            env.stored old.receivedAt ≤ env.stored fact.receivedAt := by
          intro old found
          obtain ⟨top, tops, -, same⟩ := stored.stored _ old found
          rw [← same, received]
          exact keeps top tops.member (tops.ofNode.trans ofNode)
        obtain ⟨sameRuns, sameScenarios⟩ := @writeFact_runs env store live runs scenarios fact
        exact ⟨sameRuns, sameScenarios, stored.write later, liveStored.write later⟩
    | sync nodeCode records =>
      refine ih ?_ along
      rcases attempted : FactCall.attempt env ⟨now, .sync nodeCode records⟩ store with
        fault | ⟨reply, left⟩
      · rw [serve_error attempted]
        exact ⟨runs, scenarios, stored, liveStored⟩
      · rw [serve_ok attempted]
        obtain ⟨⟨counts, archived⟩, synced, done⟩ := of_bind attempted
        cases done
        obtain ⟨sameRuns, sameScenarios⟩ := persistSynced_runs synced
        exact ⟨runs.trans sameRuns.symm, scenarios.trans sameScenarios.symm,
          stored.sync keeps synced, liveStored⟩

section Reload

variable {includeNode : String → Bool}

def ShadowRow.included (includeNode : String → Bool) (row : ShadowRow) : Bool :=
  row.nodeCode ≠ "" && includeNode row.nodeCode

def ShadowRow.entry (env : FactEnv) (row : ShadowRow) : String × Fields × Json :=
  (row.nodeCode, row.payload, env.readTime row.receivedAt)

theorem takeLatest_items (rows : List ShadowRow) (latest : Dictionary String (Fields × Json))
    (seen : List String) (same : ∀ code, code ∈ seen ↔ code ∈ latest.items.map Prod.fst) :
    (rows.foldl (takeLatest env includeNode) latest).items = latest.items ++
      (RowLog.firsts ShadowRow.nodeCode (ShadowRow.included includeNode) seen rows).map
        (ShadowRow.entry env) := by
  induction rows generalizing latest seen with
  | nil => simp [RowLog.firsts]
  | cons row rest ih =>
    rw [List.foldl_cons, RowLog.firsts]
    have known : latest.contains row.nodeCode = seen.contains row.nodeCode := by
      rw [Bool.eq_iff_iff, List.contains_iff_mem, same, Dictionary.contains,
        Option.isSome_iff_ne_none, ne_eq, Dictionary.get?_eq_none_iff, not_not]
    by_cases taken : (row.included includeNode && !seen.contains row.nodeCode) = true
    · have opened := taken
      simp only [ShadowRow.included, ← known, Bool.and_eq_true, decide_eq_true_eq,
        Bool.not_eq_true'] at opened
      obtain ⟨⟨named, included⟩, absent⟩ := opened
      have none : latest.get? row.nodeCode = none := by
        simpa [Dictionary.contains] using absent
      have stepped : (takeLatest env includeNode latest row).items =
          latest.items ++ [row.entry env] := by
        unfold takeLatest Dictionary.setDefault
        simp only [named, absent, included, none, decide_false, Bool.not_true, Bool.or_false,
          Bool.false_eq_true, if_false, dif_pos]
        rfl
      rw [if_pos taken, ih _ (row.nodeCode :: seen) fun code => ?_, stepped, List.map_cons,
        List.append_assoc, List.singleton_append]
      rw [stepped, List.map_append, List.mem_append, List.mem_cons, same]
      simp [ShadowRow.entry, or_comm]
    · have skipped : takeLatest env includeNode latest row = latest := by
        unfold takeLatest
        rw [if_pos]
        rw [known]
        simp only [ShadowRow.included, Bool.and_eq_true, decide_eq_true_eq, Bool.not_eq_true',
          not_and, Bool.not_eq_false] at taken
        by_cases named : row.nodeCode = ""
        · simp [named]
        · by_cases included : includeNode row.nodeCode = true
          · simp only [taken ⟨named, included⟩, Bool.or_true, Bool.true_or]
          · simp [included]
      rw [if_neg taken, skipped]
      exact ih latest seen same

def Restores (env : FactEnv) (includeNode : String → Bool) (newest : List HeartbeatFact)
    (entry : String × Fields × Json) : Prop :=
  entry.1 ≠ "" ∧ includeNode entry.1 = true ∧ ∃ fact, latestFact entry.1 newest = some fact ∧
    entry.2 = (fact.payload, env.readTime (env.stored fact.receivedAt))

/-- The order in which the entries come. -/
def EntryBefore (env : FactEnv) (newest : List HeartbeatFact)
    (entry other : String × Fields × Json) : Prop :=
  ∀ fact later, latestFact entry.1 newest = some fact → latestFact other.1 newest = some later →
    env.stored later.receivedAt < env.stored fact.receivedAt ∨
      env.stored later.receivedAt = env.stored fact.receivedAt ∧
      factRank other.1 newest < factRank entry.1 newest

theorem restores_items {limit : Nat} (latest : LatestStored env store newest)
    (room : store.heartbeats.length ≤ limit) :
    (∀ entry, entry ∈ (loadLatestHeartbeats env limit includeNode store.heartbeats).items ↔
        Restores env includeNode newest entry) ∧
      (loadLatestHeartbeats env limit includeNode store.heartbeats).items.Pairwise
        (EntryBefore env newest) := by
  have ordered := List.pairwise_insertionSort ShadowRow.laterReceived store.heartbeats
  have members : ∀ row, row ∈ store.heartbeats.insertionSort ShadowRow.laterReceived ↔
      row ∈ store.heartbeats := fun row => List.mem_insertionSort _
  have whole : (loadLatestHeartbeats env limit includeNode store.heartbeats).items =
      (RowLog.firsts ShadowRow.nodeCode (ShadowRow.included includeNode) []
        (store.heartbeats.insertionSort ShadowRow.laterReceived)).map (ShadowRow.entry env) := by
    unfold loadLatestHeartbeats
    rw [List.take_of_length_le (by rw [List.length_insertionSort]; omega),
      takeLatest_items _ _ [] (by simp [Dictionary.empty])]
    rfl
  generalize store.heartbeats.insertionSort ShadowRow.laterReceived = sorted
    at ordered members whole
  have tops : ∀ row ∈ RowLog.firsts ShadowRow.nodeCode (ShadowRow.included includeNode) [] sorted,
      Tops store.heartbeats row.nodeCode row ∧ row.included includeNode = true := by
    intro row first
    obtain ⟨included, -⟩ := RowLog.mem_firsts_spec first
    have there := (members row).mp ((RowLog.firsts_sublist _ _).subset first)
    refine ⟨⟨there, rfl, fun other member same => ?_⟩, included⟩
    have included' : other.included includeNode = true := by
      unfold ShadowRow.included at included ⊢
      rwa [same]
    exact RowLog.firsts_before laterReceived_refl ordered first ((members other).mpr member)
      included' same
  rw [whole]
  refine ⟨fun entry => ⟨fun member => ?_, fun restores => ?_⟩, ?_⟩
  · obtain ⟨row, first, rfl⟩ := List.mem_map.mp member
    obtain ⟨isTop, included⟩ := tops row first
    simp only [ShadowRow.included, Bool.and_eq_true, decide_eq_true_eq] at included
    obtain ⟨fact, found⟩ := latest.sent row isTop.member
    obtain ⟨top, tops', payload, received⟩ := latest.stored _ fact found
    have twin := isTop.unique latest.increasing tops'
    refine ⟨included.1, included.2, fact, found, ?_⟩
    rw [← payload, ← received, ← twin]
    rfl
  · obtain ⟨named, included, fact, found, is⟩ := restores
    obtain ⟨top, tops', payload, received⟩ := latest.stored _ fact found
    have opened : top.included includeNode = true := by
      simp [ShadowRow.included, tops'.ofNode, named, included]
    obtain ⟨row, first, same⟩ := RowLog.exists_firsts ((members top).mpr tops'.member) opened
      (List.not_mem_nil : top.nodeCode ∉ [])
    have twin : row = top := ((same.trans tops'.ofNode) ▸ (tops row first).1).unique
      latest.increasing tops'
    refine List.mem_map.mpr ⟨row, first, ?_⟩
    rw [twin, ShadowRow.entry, tops'.ofNode, payload, received, ← is]
  · rw [List.pairwise_map]
    have distinct := @RowLog.firsts_distinct _ _ _ ShadowRow.nodeCode
      (ShadowRow.included includeNode) [] sorted
    rw [List.nodup_iff_pairwise_ne, List.pairwise_map] at distinct
    refine List.Pairwise.imp_of_mem ?_ ((ordered.sublist (RowLog.firsts_sublist _ _)).and distinct)
    intro row other first second before fact later found found'
    obtain ⟨isTop, -⟩ := tops row first
    obtain ⟨isTop', -⟩ := tops other second
    obtain ⟨top, tops', -, received⟩ := latest.stored _ fact found
    obtain ⟨top', tops'', -, received'⟩ := latest.stored _ later found'
    rw [← received, ← received', ← isTop.unique latest.increasing tops',
      ← isTop'.unique latest.increasing tops'']
    rcases before.1 with earlier | ⟨equal, le⟩
    · exact .inl earlier
    · refine .inr ⟨equal, latest.ordered _ _ _ _ isTop' isTop (lt_of_le_of_ne le fun same => ?_)⟩
      exact before.2 (congrArg ShadowRow.nodeCode
        (row_eq_of_id latest.increasing isTop'.member isTop.member same)).symm

theorem reload_twin {limit : Nat} (stored : LatestStored env store newest)
    (liveStored : LatestStored env live newest) (room : store.heartbeats.length ≤ limit)
    (liveRoom : live.heartbeats.length ≤ limit) :
    loadLatestHeartbeats env limit includeNode store.heartbeats =
      loadLatestHeartbeats env limit includeNode live.heartbeats := by
  obtain ⟨members, ordered⟩ := @restores_items env store newest includeNode limit stored room
  obtain ⟨liveMembers, liveOrdered⟩ :=
    @restores_items env live newest includeNode limit liveStored liveRoom
  have nodup : ∀ dict : Dictionary String (Fields × Json), dict.items.Nodup :=
    fun dict => List.Nodup.of_map _ dict.distinct
  have items : (loadLatestHeartbeats env limit includeNode store.heartbeats).items =
      (loadLatestHeartbeats env limit includeNode live.heartbeats).items := by
    refine List.Perm.eq_of_pairwise (fun entry other member there before after => ?_) ordered
      liveOrdered ((List.perm_ext_iff_of_nodup (nodup _) (nodup _)).mpr fun entry =>
        (members entry).trans (liveMembers entry).symm)
    obtain ⟨-, -, fact, found, -⟩ := (members entry).mp member
    obtain ⟨-, -, later, found', -⟩ := (liveMembers other).mp there
    rcases before fact later found found' with earlier | ⟨equal, rank⟩
    · rcases after later fact found' found with earlier' | ⟨equal, -⟩
      · exact absurd earlier' (lt_asymm earlier)
      · exact absurd equal.symm (ne_of_lt earlier)
    · rcases after later fact found' found with earlier' | ⟨-, rank'⟩
      · exact absurd equal.symm (ne_of_lt earlier')
      · omega
  generalize loadLatestHeartbeats env limit includeNode store.heartbeats = first at items ⊢
  generalize loadLatestHeartbeats env limit includeNode live.heartbeats = second at items ⊢
  cases second
  cases items
  rfl

end Reload

/-- The reload restores the last heartbeat of every node that is not ephemeral, and what it
restores is the same without the replayed records. -/
def ReplayIsolated (env : FactEnv) (limit : Nat) (calls : List FactCall) : Prop :=
  let store := (factAuthority env).run .empty calls
  (∀ nodeCode, nodeCode ≠ "" → ephemeralNodeCode nodeCode = false →
    (loadLatestHeartbeats env limit (fun nodeCode => !ephemeralNodeCode nodeCode)
        store.heartbeats).get? nodeCode =
      (latestFact nodeCode (acceptedFacts env .empty calls).reverse).map fun fact =>
        (fact.payload, env.readTime (env.stored fact.receivedAt))) ∧
  ∀ now replaceEmpty memory,
    Procedure.after (reloadHeartbeats env now limit replaceEmpty store) memory =
      Procedure.after (reloadHeartbeats env now limit replaceEmpty
        ((factAuthority env).run .empty (calls.filter FactCall.isLive))) memory

theorem latestStored_empty : LatestStored env .empty [] where
  increasing := List.Pairwise.nil
  below _ member := absurd member List.not_mem_nil
  sent _ member := absurd member List.not_mem_nil
  stored _ _ found := nomatch found
  ordered _ _ _ _ tops := absurd tops.member List.not_mem_nil

/-- In every run in which no heartbeat and no replayed record comes after a later one of its
node, and whose tables fit into the limit, the replay does not change what a reload restores. -/
theorem replay_isolated_run (env : FactEnv) (limit : Nat) (calls : List FactCall)
    (along : (factAuthority env).Along (KeepsLatest env) .empty calls)
    (room : ((factAuthority env).run .empty calls).heartbeats.length ≤ limit)
    (liveRoom : ((factAuthority env).run .empty
      (calls.filter FactCall.isLive)).heartbeats.length ≤ limit) :
    ReplayIsolated env limit calls := by
  have twins := twins_run calls ⟨rfl, rfl, latestStored_empty, latestStored_empty⟩ along
  rw [List.append_nil] at twins
  refine ⟨fun nodeCode named lasting => ?_, fun now replaceEmpty memory => ?_⟩
  · obtain ⟨members, -⟩ := @restores_items env _ _ (fun nodeCode => !ephemeralNodeCode nodeCode)
      limit twins.stored room
    cases found : latestFact nodeCode (acceptedFacts env .empty calls).reverse with
    | none =>
      rw [Option.map_none, Dictionary.get?_eq_none_iff]
      intro there
      obtain ⟨entry, member, rfl⟩ := List.mem_map.mp there
      obtain ⟨-, -, fact, sent, -⟩ := (members entry).mp member
      rw [found] at sent
      cases sent
    | some fact =>
      rw [Option.map_some, Dictionary.get?_eq_some_iff, members]
      exact ⟨named, by simp [lasting], fact, found, rfl⟩
  · unfold reloadHeartbeats
    rw [reload_twin twins.stored twins.liveStored room liveRoom]

def sampleRecord (createdAt : Timestamp) : Fields :=
  [("local_id", .int 7), ("created_at", .time createdAt),
    ("payload", .obj [("status", .str "warning")])]

def sampleReplay (createdAt : Timestamp) : List FactCall :=
  [sampleBeat "turning-workshop-01" "S" "simpy" 10,
    ⟨11, .sync "turning-workshop-01" [sampleRecord createdAt]⟩,
    sampleBeat "milling-workshop-01" "S" "simpy" 12]

theorem replay_isolated_sample :
    ((factAuthority sampleFactEnv).run .empty (sampleReplay 5)).heartbeats.map
        (fun row => (row.nodeCode, row.receivedAt)) =
      [("turning-workshop-01", sampleFactEnv.stored 10),
        ("turning-workshop-01", sampleFactEnv.stored 5),
        ("milling-workshop-01", sampleFactEnv.stored 12)] ∧
      ReplayIsolated sampleFactEnv 500 (sampleReplay 5) := by
  refine ⟨by decide +kernel, replay_isolated_run sampleFactEnv 500 (sampleReplay 5)
    ⟨List.forall_mem_nil _, ?_, ?_, trivial⟩ (by decide +kernel)
    (by decide +kernel)⟩
  · intro record member localId payload createdAt read created
    rw [List.mem_singleton.mp member] at read created
    cases read
    cases created
    decide +kernel
  · have older : ∀ row ∈ ((factAuthority sampleFactEnv).run .empty
        ((sampleReplay 5).take 2)).heartbeats,
        row.nodeCode = "milling-workshop-01" → row.receivedAt ≤ sampleFactEnv.stored 12 := by
      decide +kernel
    exact older

/-- A replayed record with a later time takes the place of the heartbeat. -/
theorem later_replay_restored : ¬ ReplayIsolated sampleFactEnv 500 (sampleReplay 50) := by
  intro isolated
  have restored := isolated.1 "turning-workshop-01" (by decide) (by decide +kernel)
  have times : ((loadLatestHeartbeats sampleFactEnv 500
      (fun nodeCode => !ephemeralNodeCode nodeCode)
      ((factAuthority sampleFactEnv).run .empty (sampleReplay 50)).heartbeats).get?
        "turning-workshop-01").map (fun entry => (heartbeatTime 0 entry.2).toOption) =
          some (some 50) := by
    decide +kernel
  have sent : (latestFact "turning-workshop-01"
      (acceptedFacts sampleFactEnv .empty (sampleReplay 50)).reverse).map (·.receivedAt) =
        some 10 := by decide +kernel
  rw [restored] at times
  obtain ⟨fact, found, received⟩ := Option.map_eq_some_iff.mp sent
  rw [found, Option.map_some, Option.map_some] at times
  simp only [Option.some.injEq] at times
  rw [received] at times
  exact absurd times (by decide +kernel)

end MiniOgas
