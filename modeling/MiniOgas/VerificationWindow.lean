import MiniOgas.FlowVerification

namespace MiniOgas

open Bounded Serial

/-- What a heartbeat shows of the production of the nodes, and when. -/
abbrev ProductionSample := Timestamp × List (String × Fields)

section Watch

variable (verifier : CommandVerifier) (builtins : Builtins)

def CommandVerifier.watched (command : NodeCommand) (sample : ProductionSample) : NodeCommand :=
  match verifier.observe builtins sample.1 command sample.2 with
  | .ok (_, updated) => updated
  | .error _ => command

def CommandVerifier.watch (command : NodeCommand) (samples : List ProductionSample) :
    NodeCommand :=
  samples.foldl (verifier.watched builtins) command

end Watch

def NodeCommand.observations (command : NodeCommand) : List Json :=
  (pastObservations command.verificationEvidence).toOption.getD []

structure NodeCommand.Verifiable (builtins : Builtins) (verifier : CommandVerifier)
    (command : NodeCommand) : Prop where
  continues : command.verificationStatus.terminal = false
  kind : command.commandType = "set_target_rate"
  carried : command.status = .applied ∨ command.status = .executed
  listed : ∃ items, pastObservations command.verificationEvidence = .ok items
  readable : ∃ values, backlogValues builtins
    (keepLast (verifier.maxObservations - 1) command.observations) = .ok values

section Effects

variable (builtins : Builtins) (command : NodeCommand) (production : List (String × Fields))

def throughputFloor (rate : ℚ) : ℚ :=
  match number builtins (command.parameters.get "target_rate"),
    number builtins (((productionOf command.verificationBaseline command.nodeCode).getD []).get
      "target_rate") with
  | some expected, some requested =>
    if command.nodeCode = "grinding-workshop-01" ∧ 0 < requested then
      rate * expected / requested * 9 / 10
    else rate * 7 / 10
  | _, _ => rate * 7 / 10

/-- What production shows of a command that has done no harm: the target is applied, the node
downstream is not starved, and the sink keeps its rate. -/
structure SafeEffect : Prop where
  applied : ∃ expected observed,
    number builtins (command.parameters.get "target_rate") = some expected ∧
    number builtins (((productionOf production command.nodeCode).getD []).get "target_rate") =
      some observed ∧ |observed - expected| ≤ 1 / 1000
  fed : ¬∃ wip utilization,
    number builtins (((downstreamProduction production command.nodeCode).getD []).get
      "wip_input") = some wip ∧
    number builtins (((downstreamProduction production command.nodeCode).getD []).get
      "utilization") = some utilization ∧ wip ≤ 2 ∧ utilization ≤ 45 / 100
  floor : ∀ rate, number builtins (((productionOf command.verificationBaseline
      "grinding-workshop-01").getD []).get "actual_rate") = some rate → 0 < rate →
    ∃ current, number builtins (((productionOf production "grinding-workshop-01").getD []).get
      "actual_rate") = some current ∧ throughputFloor builtins command rate ≤ current

end Effects

section Laws

variable {builtins : Builtins} {verifier : CommandVerifier} {command updated : NodeCommand}
  {evidence : CommandEvidence} {downstream : Option Fields} {production : List (String × Fields)}
  {now : Timestamp} {result : CommandVerification} {observations : List Json} {backlogs : List ℚ}
  {items others : List Json} {samples : List ProductionSample} {later : NodeCommand}
  {values : List ℚ}

theorem conclude_window {concluded : VerificationStatus}
    (status : (verifier.conclude evidence downstream).1 = concluded) :
    (evidence.observations.length < verifier.minObservations → concluded = .observing) ∧
    (verifier.maxObservations ≤ evidence.observations.length → concluded.terminal = true) ∧
    (concluded = .observing ∨ concluded.terminal = true) := by
  have window := verifier.window.2
  unfold CommandVerifier.conclude at status
  dsimp only at status
  split at status
  next few => exact ⟨fun _ => status.symm, fun full => by omega, .inl status.symm⟩
  next enough =>
  refine ⟨fun few => absurd few enough, ?_⟩
  split_ifs at status <;> subst status
  all_goals first
    | exact ⟨fun _ => rfl, .inr rfl⟩
    | exact ⟨fun full => by omega, .inl rfl⟩

theorem conclude_effective (status : (verifier.conclude evidence downstream).1 = .effective) :
    evidence.targetApplied = true ∧ evidence.severeStarvation = false ∧
      evidence.throughputFloorOk = true := by
  unfold CommandVerifier.conclude at status
  dsimp only at status
  split_ifs at status with few missing late harmful
  simp only [Bool.or_eq_true, not_or, Bool.not_eq_true, Bool.not_eq_false'] at harmful
  exact ⟨by simpa using missing, harmful.1, harmful.2⟩

theorem throughputFloorRate_eq {rate : ℚ}
    (before : number builtins (((productionOf command.verificationBaseline
      "grinding-workshop-01").getD []).get "actual_rate") = some rate) :
    (gatherEvidence builtins command production observations backlogs).throughputFloorRate =
      some (throughputFloor builtins command rate) := by
  unfold gatherEvidence throughputFloor
  dsimp only
  rw [before]
  cases number builtins (command.parameters.get "target_rate") with
  | none => rfl
  | some expected =>
    cases number builtins
        (((productionOf command.verificationBaseline command.nodeCode).getD []).get
          "target_rate") with
    | none => rfl
    | some requested =>
      dsimp only
      by_cases grinds : command.nodeCode = "grinding-workshop-01" ∧ 0 < requested
      · rw [if_pos grinds, if_pos grinds]
      · rw [if_neg grinds, if_neg grinds]
        rfl

theorem throughputFloorOk_imp {rate : ℚ}
    (before : number builtins (((productionOf command.verificationBaseline
      "grinding-workshop-01").getD []).get "actual_rate") = some rate) (positive : 0 < rate)
    (ok : (gatherEvidence builtins command production observations backlogs).throughputFloorOk =
      true) :
    ∃ current floor, number builtins (((productionOf production "grinding-workshop-01").getD
      []).get "actual_rate") = some current ∧
      (gatherEvidence builtins command production observations backlogs).throughputFloorRate =
        some floor ∧ floor ≤ current := by
  unfold gatherEvidence at ok ⊢
  dsimp only at ok ⊢
  rw [before] at ok ⊢
  rw [Bool.or_eq_true, decide_eq_true_iff] at ok
  rcases ok with still | kept
  · exact absurd positive (not_lt.mpr still)
  · split at kept
    next current floor shown limit =>
      exact ⟨current, floor, shown, limit, of_decide_eq_true kept⟩
    next => cases kept

theorem safeEffect_of_gathered
    (gathered : evidence = gatherEvidence builtins command production observations backlogs)
    (applied : evidence.targetApplied = true) (fed : evidence.severeStarvation = false)
    (floor : evidence.throughputFloorOk = true) : SafeEffect builtins command production := by
  rw [gathered] at applied fed floor
  refine ⟨?_, ?_, fun rate before positive => ?_⟩
  · unfold gatherEvidence at applied
    dsimp only at applied
    split at applied
    next expected observed asked seen =>
      exact ⟨expected, observed, asked, seen, of_decide_eq_true applied⟩
    next => cases applied
  · rintro ⟨wip, utilization, queue, load, short, idle⟩
    unfold gatherEvidence at fed
    dsimp only at fed
    rw [queue, load] at fed
    exact absurd ⟨short, idle⟩ (of_decide_eq_false fed)
  · obtain ⟨current, least, shown, limit, kept⟩ := throughputFloorOk_imp before positive floor
    rw [throughputFloorRate_eq before] at limit
    exact ⟨current, shown, Option.some.inj limit ▸ kept⟩

theorem backlogValues_append {more : List ℚ}
    (first : backlogValues builtins items = .ok values)
    (second : backlogValues builtins others = .ok more) :
    backlogValues builtins (items ++ others) = .ok (values ++ more) := by
  induction items generalizing values with
  | nil =>
    cases first
    exact second
  | cons item items ih =>
    cases item with
    | obj fields =>
      obtain ⟨rest, read, first⟩ := of_bind first
      rw [List.cons_append]
      unfold backlogValues
      rw [ih read, ok_bind]
      cases shown : Fields.get fields "downstream_backlog" with
      | null =>
        rw [shown] at first
        cases first
        rfl
      | _ =>
        rw [shown] at first
        obtain ⟨q, given, first⟩ := of_bind first
        cases first
        dsimp only
        rw [given]
        rfl
    | _ => cases first

theorem backlogValues_drop {items : List Json}
    (read : backlogValues builtins items = .ok values) (n : Nat) :
    ∃ values, backlogValues builtins (items.drop n) = .ok values := by
  induction n generalizing items values with
  | zero => exact ⟨values, read⟩
  | succ n ih =>
    cases items with
    | nil => exact ⟨values, read⟩
    | cons item items =>
      cases item with
      | obj fields =>
        obtain ⟨rest, rest_read, -⟩ := of_bind read
        exact ih rest_read
      | _ => cases read

theorem backlogValues_observation (exact : builtins.ExactFloat) (now : Timestamp)
    (command : NodeCommand) (production : List (String × Fields)) :
    ∃ values, backlogValues builtins [observation builtins now command production] = .ok values :=
  ⟨_, backlogValues_eq exact (.cons (observation_sampleOf builtins now command production) .nil)⟩

theorem observations_eq {items : List Json}
    (listed : pastObservations command.verificationEvidence = .ok items) :
    command.observations = items := by
  unfold NodeCommand.observations
  rw [listed]
  rfl

structure Observes (builtins : Builtins) (verifier : CommandVerifier) (command : NodeCommand)
    (production : List (String × Fields)) (updated : NodeCommand) : Prop where
  node : updated.nodeCode = command.nodeCode
  parameters : updated.parameters = command.parameters
  baseline : updated.verificationBaseline = command.verificationBaseline
  kind : updated.commandType = command.commandType
  count : updated.observations.length =
    min verifier.maxObservations (command.observations.length + 1)
  listed : ∃ items, pastObservations updated.verificationEvidence = .ok items
  readable : ∃ values, backlogValues builtins updated.observations = .ok values
  waits : updated.verificationStatus.terminal = false → updated.status = command.status
  early : updated.verificationStatus.terminal = true →
    verifier.minObservations ≤ updated.observations.length
  full : verifier.maxObservations ≤ updated.observations.length →
    updated.verificationStatus.terminal = true
  effective : updated.verificationStatus = .effective → SafeEffect builtins command production

theorem keepLast_pred_append {α : Type} (n : Nat) (positive : 0 < n) (xs : List α) (x : α) :
    keepLast n (xs ++ [x]) = keepLast (n - 1) xs ++ [x] := by
  unfold keepLast
  rw [List.length_append, List.length_singleton, List.drop_append_of_le_length (by omega)]
  congr 2
  omega

theorem observe_verifiable (exact : builtins.ExactFloat)
    (verifiable : command.Verifiable builtins verifier) (now : Timestamp)
    (production : List (String × Fields)) :
    ∃ result updated, verifier.observe builtins now command production = .ok (result, updated) ∧
      Observes builtins verifier command production updated := by
  obtain ⟨continues, kind, carried, ⟨items, listed⟩, values, readable⟩ := verifiable
  rw [observations_eq listed] at readable
  have positive : 0 < verifier.maxObservations := by
    have := verifier.window
    omega
  obtain ⟨more, sampled⟩ := backlogValues_observation exact now command production
  have read := backlogValues_append readable sampled
  rw [← keepLast_pred_append _ positive] at read
  have ready : ¬(command.commandType ≠ "set_target_rate" ∨
      (command.status ≠ .applied ∧ command.status ≠ .executed)) := by
    rintro (other | ⟨one, two⟩)
    · exact other kind
    · exact carried.elim one two
  have count : (keepLast verifier.maxObservations
      (items ++ [observation builtins now command production])).length =
        min verifier.maxObservations (items.length + 1) := by
    unfold keepLast
    rw [List.length_drop, List.length_append, List.length_singleton]
    omega
  unfold CommandVerifier.observe
  rw [continues, if_neg (by decide), if_neg ready, listed, ok_bind]
  dsimp only
  rw [read, ok_bind]
  generalize gathered : gatherEvidence builtins command production _ _ = evidence
  have samples : evidence.observations = keepLast verifier.maxObservations
      (items ++ [observation builtins now command production]) := by
    rw [← gathered]
    rfl
  rw [← samples] at count read
  generalize concluded : verifier.conclude evidence _ = conclusion
  obtain ⟨status, message⟩ := conclusion
  obtain ⟨few, full, either⟩ := @conclude_window verifier evidence _ status (by rw [concluded])
  have recorded := pastObservations_fields verifier evidence
  have past : ∀ updated : NodeCommand, updated.verificationEvidence = verifier.fields evidence →
      updated.observations = evidence.observations := fun updated same =>
    observations_eq (same ▸ recorded)
  dsimp only
  split
  next waits =>
    refine ⟨_, _, rfl, rfl, rfl, rfl, rfl, ?_, ⟨_, recorded⟩, ?_, fun _ => rfl, ?_, ?_, ?_⟩
    · rw [past _ rfl, count, observations_eq listed]
    · rw [past _ rfl]
      exact ⟨_, read⟩
    · nofun
    · rw [past _ rfl]
      intro enough
      have given := full enough
      rw [waits] at given
      cases given
    · nofun
  next decided =>
    have given := either.resolve_left decided
    refine ⟨_, _, rfl, rfl, rfl, rfl, rfl, ?_, ⟨_, recorded⟩, ?_, ?_, ?_, fun _ => given, ?_⟩
    · rw [past _ rfl, count, observations_eq listed]
    · rw [past _ rfl]
      exact ⟨_, read⟩
    · intro open_
      change status.terminal = false at open_
      rw [given] at open_
      cases open_
    · rw [past _ rfl]
      intro _
      by_contra short
      exact decided (few (Nat.lt_of_not_le short))
    · intro effective
      have safe := conclude_effective (show (verifier.conclude evidence _).1 = .effective by
        rw [concluded]; exact effective)
      exact safeEffect_of_gathered gathered.symm safe.1 safe.2.1 safe.2.2

theorem readable_of_append
    (read : backlogValues builtins (items ++ others) = .ok values) :
    ∃ values, backlogValues builtins items = .ok values := by
  induction items generalizing values with
  | nil => exact ⟨[], rfl⟩
  | cons item items ih =>
    cases item with
    | obj fields =>
      unfold backlogValues at read ⊢
      obtain ⟨all, rest, read⟩ := of_bind read
      obtain ⟨values, own⟩ := ih rest
      rw [own, ok_bind]
      cases shown : Fields.get fields "downstream_backlog" with
      | null => exact ⟨values, rfl⟩
      | _ =>
        rw [shown] at read
        obtain ⟨q, given, -⟩ := of_bind read
        dsimp only
        rw [given]
        exact ⟨q :: values, rfl⟩
    | _ => cases read

theorem observe_unverifiable (skips : ¬command.Verifiable builtins verifier)
    (done : verifier.observe builtins now command production = .ok (result, updated)) :
    updated = command := by
  cases terminal : command.verificationStatus.terminal with
  | true =>
    unfold CommandVerifier.observe at done
    rw [if_pos terminal] at done
    cases done
    rfl
  | false =>
    unfold CommandVerifier.observe at done
    rw [terminal, if_neg (by decide)] at done
    split at done
    next =>
      cases done
      rfl
    next ready =>
      obtain ⟨items, listed, done⟩ := of_bind done
      obtain ⟨values, read, -⟩ := of_bind done
      have positive : 0 < verifier.maxObservations := by
        have := verifier.window
        omega
      rw [keepLast_pred_append _ positive] at read
      refine absurd ⟨terminal, ?_, ?_, ⟨items, listed⟩, ?_⟩ skips
      · exact not_not.mp fun other => ready (.inl other)
      · by_contra neither
        exact ready (.inr (not_or.mp neither))
      · rw [observations_eq listed]
        exact readable_of_append read

theorem observe_answers
    (done : verifier.observe builtins now command production = .ok (result, updated)) :
    result.terminal = updated.verificationStatus.terminal ∧
      (result.terminal = true → result.status = updated.verificationStatus) := by
  unfold CommandVerifier.observe at done
  cases terminal : command.verificationStatus.terminal with
  | true =>
    rw [if_pos terminal] at done
    cases done
    exact ⟨terminal.symm, fun _ => rfl⟩
  | false =>
    rw [terminal, if_neg (by decide)] at done
    split at done
    next =>
      cases done
      exact ⟨terminal.symm, nofun⟩
    next =>
      obtain ⟨items, listed, done⟩ := of_bind done
      obtain ⟨values, read, done⟩ := of_bind done
      dsimp only at done
      split at done
      next =>
        obtain ⟨answer, left⟩ := Prod.mk.inj (Except.ok.inj done)
        rw [← answer, ← left]
        exact ⟨rfl, nofun⟩
      next decided =>
        obtain ⟨answer, left⟩ := Prod.mk.inj (Except.ok.inj done)
        rw [← answer, ← left]
        have given := (conclude_window rfl).2.2.resolve_left decided
        exact ⟨given.symm, fun _ => rfl⟩

theorem watched_ok (done : verifier.observe builtins now command production =
    .ok (result, updated)) : verifier.watched builtins command (now, production) = updated := by
  unfold CommandVerifier.watched
  rw [done]

theorem watched_unverifiable (skips : ¬command.Verifiable builtins verifier)
    (sample : ProductionSample) : verifier.watched builtins command sample = command := by
  cases done : verifier.observe builtins sample.1 command sample.2 with
  | ok observed => exact (watched_ok done).trans (observe_unverifiable skips done)
  | error fault =>
    unfold CommandVerifier.watched
    rw [done]

theorem watch_unverifiable (skips : ¬command.Verifiable builtins verifier)
    (samples : List ProductionSample) : verifier.watch builtins command samples = command := by
  induction samples with
  | nil => rfl
  | cons sample samples ih =>
    unfold CommandVerifier.watch at ih ⊢
    rw [List.foldl_cons, watched_unverifiable skips]
    exact ih

theorem watched_verifiable (exact : builtins.ExactFloat)
    (verifiable : command.Verifiable builtins verifier) (sample : ProductionSample) :
    Observes builtins verifier command sample.2 (verifier.watched builtins command sample) := by
  obtain ⟨result, updated, done, observes⟩ :=
    observe_verifiable exact verifiable sample.1 sample.2
  rwa [watched_ok done]

theorem Observes.verifiable (verifiable : command.Verifiable builtins verifier)
    (observes : Observes builtins verifier command production updated)
    (continues : updated.verificationStatus.terminal = false) :
    updated.Verifiable builtins verifier := by
  obtain ⟨values, read⟩ := observes.readable
  refine ⟨continues, observes.kind.trans verifiable.kind, ?_, observes.listed,
    backlogValues_drop read _⟩
  rw [observes.waits continues]
  exact verifiable.carried

theorem watch_append (samples more : List ProductionSample) :
    verifier.watch builtins command (samples ++ more) =
      verifier.watch builtins (verifier.watch builtins command samples) more := by
  exact List.foldl_append

theorem watch_concat (samples : List ProductionSample) (sample : ProductionSample) :
    verifier.watch builtins command (samples ++ [sample]) =
      verifier.watched builtins (verifier.watch builtins command samples) sample :=
  watch_append samples [sample]

theorem not_verifiable_of_terminal (verdict : command.verificationStatus.terminal = true) :
    ¬command.Verifiable builtins verifier := by
  intro verifiable
  have continues := verifiable.continues
  rw [verdict] at continues
  cases continues

theorem safeEffect_congr {first second : NodeCommand} (node : second.nodeCode = first.nodeCode)
    (parameters : second.parameters = first.parameters)
    (baseline : second.verificationBaseline = first.verificationBaseline)
    (safe : SafeEffect builtins second production) : SafeEffect builtins first production := by
  have floor : throughputFloor builtins second = throughputFloor builtins first := by
    unfold throughputFloor
    rw [node, parameters, baseline]
  refine ⟨?_, ?_, ?_⟩
  · rw [← node, ← parameters]
    exact safe.applied
  · rw [← node]
    exact safe.fed
  · rw [← baseline, ← floor]
    exact safe.floor

/-- Where a command stands after observations that it could be verified with. -/
structure Watched (builtins : Builtins) (verifier : CommandVerifier) (command : NodeCommand)
    (samples : List ProductionSample) (later : NodeCommand) : Prop where
  node : later.nodeCode = command.nodeCode
  parameters : later.parameters = command.parameters
  baseline : later.verificationBaseline = command.verificationBaseline
  count : later.observations.length ≤ command.observations.length + samples.length
  waits : later.verificationStatus.terminal = false → later.Verifiable builtins verifier ∧
    later.observations.length = command.observations.length + samples.length ∧
    (samples ≠ [] → later.observations.length < verifier.maxObservations)
  judged : later.verificationStatus.terminal = true →
    verifier.minObservations ≤ later.observations.length
  kept : samples ≠ [] → later.observations.length ≤ verifier.maxObservations
  effective : later.verificationStatus = .effective → ∃ before sample after,
    samples = before ++ sample :: after ∧
      (verifier.watch builtins command before).verificationStatus.terminal = false ∧
      verifier.watch builtins command (before ++ [sample]) = later ∧
      SafeEffect builtins command sample.2

theorem watched_nil (verifiable : command.Verifiable builtins verifier) :
    Watched builtins verifier command [] command := by
  have continues := verifiable.continues
  refine ⟨rfl, rfl, rfl, le_rfl, ?_, ?_, ?_, ?_⟩
  · intro _
    exact ⟨verifiable, rfl, fun some => absurd rfl some⟩
  · intro verdict
    rw [continues] at verdict
    cases verdict
  · intro some
    exact absurd rfl some
  · intro effective
    rw [effective] at continues
    cases continues

theorem Watched.rest (watched : Watched builtins verifier command samples later)
    (verdict : later.verificationStatus.terminal = true) (some : samples ≠ [])
    (sample : ProductionSample) :
    Watched builtins verifier command (samples ++ [sample]) later := by
  have count := watched.count
  refine { watched with count := ?_, waits := ?_, kept := ?_, effective := ?_ }
  · rw [List.length_append, List.length_singleton]
    omega
  · intro open_
    rw [verdict] at open_
    cases open_
  · intro _
    exact watched.kept some
  · intro effective
    obtain ⟨before, judged, after, split, rest⟩ := watched.effective effective
    refine ⟨before, judged, after ++ [sample], ?_, rest⟩
    rw [split, List.append_assoc, List.cons_append]

theorem Watched.observe (watched : Watched builtins verifier command samples later)
    (same : verifier.watch builtins command samples = later)
    (waits : later.verificationStatus.terminal = false) {sample : ProductionSample}
    (observes : Observes builtins verifier later sample.2 updated)
    (next : verifier.watch builtins command (samples ++ [sample]) = updated) :
    Watched builtins verifier command (samples ++ [sample]) updated := by
  obtain ⟨verifiable, exactly, -⟩ := watched.waits waits
  have count := observes.count
  have length : (samples ++ [sample]).length = samples.length + 1 := List.length_append
  refine ⟨observes.node.trans watched.node, observes.parameters.trans watched.parameters,
    observes.baseline.trans watched.baseline, ?_, ?_, observes.early, ?_, ?_⟩
  · omega
  · intro open_
    have room : updated.observations.length < verifier.maxObservations := by
      by_contra full
      have verdict := observes.full (Nat.le_of_not_lt full)
      rw [open_] at verdict
      cases verdict
    exact ⟨observes.verifiable verifiable open_, by omega, fun _ => room⟩
  · intro _
    omega
  · intro effective
    refine ⟨samples, sample, [], rfl, ?_, next, ?_⟩
    · rw [same]
      exact waits
    · exact safeEffect_congr watched.node watched.parameters watched.baseline
        (observes.effective effective)

theorem watched_run (exact : builtins.ExactFloat)
    (verifiable : command.Verifiable builtins verifier) (samples : List ProductionSample) :
    Watched builtins verifier command samples (verifier.watch builtins command samples) := by
  induction samples using List.reverseRecOn with
  | nil => exact watched_nil verifiable
  | append_singleton samples sample ih =>
    have next : verifier.watch builtins command (samples ++ [sample]) =
        verifier.watched builtins (verifier.watch builtins command samples) sample :=
      watch_concat samples sample
    cases verdict : (verifier.watch builtins command samples).verificationStatus.terminal with
    | true =>
      have some : samples ≠ [] := by
        rintro rfl
        have continues := verifiable.continues
        rw [show command.verificationStatus.terminal = true from verdict] at continues
        cases continues
      rw [next, watched_unverifiable (not_verifiable_of_terminal verdict)]
      exact ih.rest verdict some sample
    | false =>
      obtain ⟨able, -, -⟩ := ih.waits verdict
      rw [next]
      exact ih.observe rfl verdict (watched_verifiable exact able sample) next

structure WindowLaw (builtins : Builtins) (verifier : CommandVerifier) (command : NodeCommand)
    (samples : List ProductionSample) (later : NodeCommand) : Prop where
  early : command.observations.length + samples.length < verifier.minObservations →
    later.verificationStatus.terminal = false
  late : samples ≠ [] →
    verifier.maxObservations ≤ command.observations.length + samples.length →
      later.verificationStatus.terminal = true
  kept : samples ≠ [] → later.observations.length ≤ verifier.maxObservations
  effective : later.verificationStatus = .effective → ∃ before sample after,
    samples = before ++ sample :: after ∧
      (verifier.watch builtins command before).verificationStatus.terminal = false ∧
      verifier.watch builtins command (before ++ [sample]) = later ∧
      SafeEffect builtins command sample.2

theorem Watched.windowLaw (watched : Watched builtins verifier command samples later) :
    WindowLaw builtins verifier command samples later := by
  have count := watched.count
  refine ⟨fun few => ?_, fun some full => ?_, watched.kept, watched.effective⟩
  · cases verdict : later.verificationStatus.terminal with
    | false => rfl
    | true =>
      have := watched.judged verdict
      omega
  · cases verdict : later.verificationStatus.terminal with
    | true => rfl
    | false =>
      obtain ⟨-, exactly, room⟩ := watched.waits verdict
      have := room some
      omega

/-- An observation counts for a command whose applied rate still lacks its verdict, and for no
other; those that count give one verdict, within their window, and it stays. -/
theorem observe_window (exact : builtins.ExactFloat) (verifier : CommandVerifier)
    (command : NodeCommand) (samples : List ProductionSample) :
    (¬command.Verifiable builtins verifier →
      verifier.watch builtins command samples = command) ∧
    (command.Verifiable builtins verifier →
      WindowLaw builtins verifier command samples (verifier.watch builtins command samples)) ∧
    ((verifier.watch builtins command samples).verificationStatus.terminal = true →
      ∀ more, verifier.watch builtins command (samples ++ more) =
        verifier.watch builtins command samples) ∧
    ∀ now production,
      ((verifier.watch builtins command samples).Verifiable builtins verifier →
        ∃ result updated, verifier.observe builtins now (verifier.watch builtins command samples)
          production = .ok (result, updated)) ∧
      ∀ result updated, verifier.observe builtins now (verifier.watch builtins command samples)
          production = .ok (result, updated) →
        result.terminal = updated.verificationStatus.terminal ∧
          (result.terminal = true → result.status = updated.verificationStatus) := by
  refine ⟨fun skips => watch_unverifiable skips samples,
    fun verifiable => (watched_run exact verifiable samples).windowLaw, ?_, ?_⟩
  · intro verdict more
    rw [watch_append]
    exact watch_unverifiable (not_verifiable_of_terminal verdict) more
  · intro now production
    refine ⟨fun verifiable => ?_, fun result updated done => observe_answers done⟩
    obtain ⟨result, updated, done, -⟩ := observe_verifiable exact verifiable now production
    exact ⟨result, updated, done⟩

end Laws

def sampleWatchSamples : List ProductionSample :=
  List.replicate 5 (2, [("milling-workshop-01", sampleMillingRates (72 / 100) (62 / 100)),
    ("grinding-workshop-01", sampleGrinding)])

theorem sampleFlowCommand_verifiable (verifier : CommandVerifier) :
    sampleFlowCommand.Verifiable sampleBuiltins verifier := by
  have none : sampleFlowCommand.observations = [] := rfl
  refine ⟨rfl, rfl, .inl rfl, ⟨[], rfl⟩, [], ?_⟩
  rw [none, keepLast, List.drop_nil]
  rfl

theorem sampleFlowCommand_window :
    (CommandVerifier.standard.watch sampleBuiltins sampleFlowCommand
      sampleWatchSamples).verificationStatus.terminal = true := by
  have window := (observe_window sampleBuiltins_exactFloat CommandVerifier.standard
    sampleFlowCommand sampleWatchSamples).2.1 (sampleFlowCommand_verifiable _)
  exact window.late (by decide) (by decide)

end MiniOgas
