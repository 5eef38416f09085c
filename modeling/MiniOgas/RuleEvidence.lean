import MiniOgas.SnapshotRules
import MiniOgas.RoundingLaws
import Mathlib.Data.List.ReduceOption

namespace MiniOgas

namespace Rules

open Bounded Serial

/-- A number that is reported stands in its relation to its threshold. -/
def Evidence.Truthful (item : Evidence) : Prop :=
  ∀ value threshold, item.value.asFloat = some value → item.threshold.asFloat = some threshold →
    (item.operator = ">=" → threshold ≤ value) ∧ (item.operator = "<=" → value ≤ threshold) ∧
      (item.operator = ">" → threshold < value)

def Conclusion.Truthful (conclusion : Conclusion) : Prop :=
  ∀ item ∈ conclusion.evidence, item.Truthful

section Conditions

variable (env : RuleEnv) (node : Fields)

/-- A node without a target rate is not said to make too little while it makes something. -/
def StarvationShown : Prop :=
  offline env node = false → starving env node = true → produced env node "target_rate" ≤ 0 →
    roundRate (produced env node "actual_rate") ≤
      roundRate (produced env node "target_rate" * (55 / 100))

/-- Where one of the defect rate and its change is high, the other is as well. -/
def DefectsShown : Prop :=
  defective env node = true → 4995 / 100000 ≤ produced env node "defect_rate" ∧
    1995 / 100000 ≤ produced env node "defect_rate_delta"

/-- Where one of the latency and the traffic is high, the other is as well. -/
def NetworkShown : Prop :=
  networkStrained env node = true → 24995 / 100 ≤ latency env node ∧
    4999999995 / 100 ≤ networkTotal env node

structure NodeShown : Prop where
  starvation : StarvationShown env node
  defects : DefectsShown env node
  network : NetworkShown env node

/-- A node that makes too much makes so much that its ratio is not rounded down to the limit. -/
def OverproductionShown (snapshot : Fields) : Prop :=
  let turning := nodeOfType env (ruleNodes snapshot) "turning"
  let milling := nodeOfType env (ruleNodes snapshot) "milling"
  overproducing env turning milling = true →
    12005 / 10000 < produced env turning "target_rate" / produced env milling "target_rate"

end Conditions

variable {env : RuleEnv} {snapshot node : Fields} {item : Evidence} {v t q : ℚ} {place : ℚ}
  {nodes : List Fields} {conclusions : List Conclusion}

theorem truthful_ge (operator : item.operator = ">=") (value : item.value.asFloat = some v)
    (threshold : item.threshold.asFloat = some t) : item.Truthful ↔ t ≤ v := by
  unfold Evidence.Truthful
  rw [operator, value, threshold]
  simp

theorem truthful_le (operator : item.operator = "<=") (value : item.value.asFloat = some v)
    (threshold : item.threshold.asFloat = some t) : item.Truthful ↔ v ≤ t := by
  unfold Evidence.Truthful
  rw [operator, value, threshold]
  simp

theorem truthful_gt (operator : item.operator = ">") (value : item.value.asFloat = some v)
    (threshold : item.threshold.asFloat = some t) : item.Truthful ↔ t < v := by
  unfold Evidence.Truthful
  rw [operator, value, threshold]
  simp

theorem truthful_in (operator : item.operator = "in") : item.Truthful := by
  unfold Evidence.Truthful
  rw [operator]
  simp

theorem rounded_reaches (n : Int) (positive : 0 < place) (exact : t = n / place) (h : t ≤ q) :
    t ≤ roundHalfEven (q * place) / place := by
  rw [exact] at h ⊢
  exact (div_le_rounded_iff positive).mpr (le_roundHalfEven ((div_le_iff₀ positive).mp h))

theorem rounded_within (n : Int) (positive : 0 < place) (exact : t = n / place) (h : q ≤ t) :
    roundHalfEven (q * place) / place ≤ t := by
  rw [exact] at h ⊢
  exact rounded_le positive h

theorem rounded_reaches_iff (n : Int) (positive : 0 < place) (exact : t = n / place)
    (even : n % 2 = 0) (limit : ((n : ℚ) - 1 / 2) / place = v) :
    t ≤ roundHalfEven (q * place) / place ↔ v ≤ q := by
  rw [exact, div_le_rounded_iff positive, le_roundHalfEven_iff even, ← limit,
    div_le_iff₀ positive]

theorem rounded_exceeds_iff (n : Int) (positive : 0 < place) (exact : t = n / place)
    (even : n % 2 = 0) (limit : ((n : ℚ) + 1 / 2) / place = v) :
    t < roundHalfEven (q * place) / place ↔ v < q := by
  rw [exact, div_lt_div_iff_of_pos_right positive, Int.cast_lt, lt_roundHalfEven_iff even, ← limit,
    div_lt_iff₀ positive]

theorem pair_truthful_iff {first second : Evidence} :
    (∀ item ∈ [first, second], item.Truthful) ↔ first.Truthful ∧ second.Truthful := by
  simp

theorem offlineRule_truthful : ∀ conclusion ∈ offlineRule env snapshot node,
    conclusion.Truthful := by
  intro conclusion concluded item member
  unfold offlineRule at concluded
  split at concluded
  next =>
    cases concluded
    cases List.mem_singleton.mp member
    exact truthful_in rfl
  next => cases concluded

theorem staleRule_truthful {stale : Option Conclusion}
    (done : staleRule env snapshot node = .ok stale) :
    ∀ conclusion ∈ stale, conclusion.Truthful := by
  unfold staleRule at done
  dsimp only at done
  intro conclusion concluded item member
  split at done
  next =>
    cases done
    cases concluded
  split at done
  next =>
    split at done
    next => cases done
    split at done
    next =>
      cases done
      cases concluded
    next old =>
      cases done
      cases concluded
      cases List.mem_singleton.mp member
      refine (truthful_ge rfl rfl rfl).mpr ?_
      exact rounded_reaches 200 (by norm_num) (by norm_num) (not_lt.mp old)
  next =>
    cases done
    cases concluded

theorem bottleneckEvidence_truthful : ∀ item ∈ bottleneckEvidence env node, item.Truthful := by
  intro item member
  unfold bottleneckEvidence at member
  rw [List.mem_append, List.mem_append, List.mem_append] at member
  rcases member with ((backlog | loaded) | slow) | waiting
  · split at backlog
    next high =>
      cases List.mem_singleton.mp backlog
      refine (truthful_ge rfl rfl rfl).mpr ?_
      exact rounded_reaches 12000 (by norm_num) (by norm_num) (of_decide_eq_true high)
    next => cases backlog
  · split at loaded
    next high =>
      cases List.mem_singleton.mp loaded
      refine (truthful_ge rfl rfl rfl).mpr ?_
      exact rounded_reaches 820 (by norm_num) (by norm_num) high
    next => cases loaded
  · split at slow
    next low =>
      cases List.mem_singleton.mp slow
      refine (truthful_le rfl rfl rfl).mpr ?_
      exact rounded_within 750 (by norm_num) (by norm_num) low.2
    next => cases slow
  · split at waiting
    next trigger =>
      cases List.mem_singleton.mp waiting
      unfold rateTrigger at trigger
      rw [Bool.and_eq_true, Bool.and_eq_true] at trigger
      refine (truthful_ge rfl rfl rfl).mpr ?_
      exact rounded_reaches 6000 (by norm_num) (by norm_num) (of_decide_eq_true trigger.2)
    next => cases waiting

theorem bottleneckRule_truthful : ∀ conclusion ∈ bottleneckRule env snapshot node,
    conclusion.Truthful := by
  intro conclusion concluded
  unfold bottleneckRule at concluded
  split at concluded
  next => cases concluded
  split at concluded
  next => cases concluded
  cases concluded
  exact bottleneckEvidence_truthful

theorem toolWearRule_truthful : ∀ conclusion ∈ toolWearRule env snapshot node,
    conclusion.Truthful := by
  intro conclusion concluded item member
  unfold toolWearRule at concluded
  dsimp only at concluded
  split at concluded
  next => cases concluded
  next worn =>
    cases concluded
    cases List.mem_singleton.mp member
    refine (truthful_ge rfl rfl rfl).mpr ?_
    exact rounded_reaches 6500 (by norm_num) (by norm_num) (not_lt.mp worn)

theorem guarded_truthful_iff {on : Bool} {conclusion : Conclusion} :
    (∀ made ∈ if on then some conclusion else none, made.Truthful) ↔
      (on = true → conclusion.Truthful) := by
  cases on <;> simp

theorem starvationRule_truthful_iff :
    (∀ conclusion ∈ starvationRule env snapshot node, conclusion.Truthful) ↔
      StarvationShown env node := by
  unfold starvationRule StarvationShown
  cases offline env node with
  | true =>
    refine iff_of_true ?_ (nofun)
    nofun
  | false =>
    refine guarded_truthful_iff.trans ⟨fun truthful _ short _ => ?_, fun shown short => ?_⟩
    · exact (truthful_le rfl rfl rfl).mp (truthful short _ (.tail _ (.tail _ (.head _))))
    · intro item member
      have shown := shown rfl short
      unfold starving at short
      rw [Bool.and_eq_true, Bool.and_eq_true, Bool.or_eq_true, decide_eq_true_iff,
        decide_eq_true_iff, decide_eq_true_iff, decide_eq_true_iff] at short
      obtain ⟨⟨queue, load⟩, slow⟩ := short
      rcases List.mem_cons.mp member with rfl | member
      · refine (truthful_le rfl rfl rfl).mpr ?_
        exact rounded_within 2000 (by norm_num) (by norm_num) queue
      rcases List.mem_cons.mp member with rfl | member
      · refine (truthful_le rfl rfl rfl).mpr ?_
        exact rounded_within 450 (by norm_num) (by norm_num) load
      cases List.mem_singleton.mp member
      refine (truthful_le rfl rfl rfl).mpr ?_
      rcases slow with none | behind
      · exact shown none
      · exact rounded_mono (by norm_num) behind

theorem defectRule_truthful_iff :
    (∀ conclusion ∈ defectRule env snapshot node, conclusion.Truthful) ↔
      DefectsShown env node := by
  refine guarded_truthful_iff.trans (forall_congr' fun _ => pair_truthful_iff.trans ?_)
  rw [truthful_ge rfl rfl rfl, truthful_ge rfl rfl rfl]
  refine and_congr ?_ ?_
  · exact rounded_reaches_iff 500 (by norm_num) (by norm_num) (by norm_num) (by norm_num)
  · exact rounded_reaches_iff 200 (by norm_num) (by norm_num) (by norm_num) (by norm_num)

theorem networkRule_truthful_iff :
    (∀ conclusion ∈ networkRule env snapshot node, conclusion.Truthful) ↔
      NetworkShown env node := by
  refine guarded_truthful_iff.trans (forall_congr' fun _ => pair_truthful_iff.trans ?_)
  rw [truthful_ge rfl rfl rfl, truthful_ge rfl rfl rfl]
  refine and_congr ?_ ?_
  · exact rounded_reaches_iff 2500 (by norm_num) (by norm_num) (by norm_num) (by norm_num)
  · exact rounded_reaches_iff 500000000 (by norm_num) (by norm_num) (by norm_num) (by norm_num)

theorem objects_of_ok {value : Json} (met : objects value = .ok nodes) :
    nodes = value.list.filterMap asObject := by
  cases value <;> cases met <;> rfl

theorem listed_of_ok {key : String} (met : objects (getOr snapshot key (.arr [])) = .ok nodes) :
    nodes = (snapshot.get key).list.filterMap asObject := by
  rw [objects_of_ok met]
  unfold getOr Fields.get
  cases snapshot.find? (·.1 = key) with
  | none => rfl
  | some field => rfl

theorem turningOverproductionRule_truthful_iff {overproduction : Option Conclusion}
    (done : turningOverproductionRule env snapshot = .ok overproduction) :
    (∀ conclusion ∈ overproduction, conclusion.Truthful) ↔ OverproductionShown env snapshot := by
  obtain ⟨nodes, met, done⟩ := of_bind done
  rw [show nodes = ruleNodes snapshot from listed_of_ok met] at done
  unfold OverproductionShown
  dsimp only at done ⊢
  generalize nodeOfType env (ruleNodes snapshot) "turning" = turning at done ⊢
  generalize nodeOfType env (ruleNodes snapshot) "milling" = milling at done ⊢
  cases above : overproducing env turning milling with
  | false =>
    rw [above, if_neg (by decide)] at done
    cases done
    refine iff_of_true ?_ (nofun)
    nofun
  | true =>
    rw [above, if_pos rfl] at done
    cases done
    have ratio : (12 / 10 : ℚ) < roundRate (produced env turning "target_rate" /
        produced env milling "target_rate") ↔ 12005 / 10000 <
          produced env turning "target_rate" / produced env milling "target_rate" :=
      rounded_exceeds_iff 1200 (by norm_num) (by norm_num) (by norm_num) (by norm_num)
    unfold overproducing at above
    rw [Bool.and_eq_true, decide_eq_true_iff] at above
    have waiting : (8 : ℚ) ≤ roundRate (nodeBacklog env milling) :=
      rounded_reaches 8000 (by norm_num) (by norm_num) above.2
    rw [← ratio]
    constructor
    · intro truthful _
      exact (truthful_gt rfl rfl rfl).mp (pair_truthful_iff.mp (truthful _ rfl)).1
    · intro shown conclusion concluded
      cases concluded
      exact pair_truthful_iff.mpr ⟨(truthful_gt rfl rfl rfl).mpr (shown rfl),
        (truthful_ge rfl rfl rfl).mpr waiting⟩

theorem ineffectiveCommandRule_truthful {command : Fields} {concluded : Option Conclusion}
    (done : ineffectiveCommandRule env snapshot nodes command = .ok concluded) :
    ∀ conclusion ∈ concluded, conclusion.Truthful := by
  obtain ⟨reported, -, done⟩ := of_bind done
  intro conclusion given item member
  split at done
  next =>
    cases done
    cases given
    cases List.mem_singleton.mp member
    exact truthful_in rfl
  next =>
    cases done
    cases given

theorem forall_reduceOption {options : List (Option Conclusion)} {P : Conclusion → Prop} :
    (∀ conclusion ∈ options.reduceOption, P conclusion) ↔
      ∀ option ∈ options, ∀ conclusion ∈ option, P conclusion := by
  constructor
  · rintro holds option member conclusion rfl
    exact holds conclusion (List.reduceOption_mem_iff.mpr member)
  · intro holds conclusion member
    exact holds _ (List.reduceOption_mem_iff.mp member) conclusion rfl

theorem nodeRules_truthful_iff (done : nodeRules env snapshot node = .ok conclusions) :
    (∀ conclusion ∈ conclusions, conclusion.Truthful) ↔ NodeShown env node := by
  obtain ⟨stale, aged, done⟩ := of_bind done
  cases done
  rw [forall_reduceOption]
  simp only [List.forall_mem_cons]
  rw [starvationRule_truthful_iff, defectRule_truthful_iff, networkRule_truthful_iff]
  constructor
  · rintro ⟨-, -, -, starvation, defects, -, network, -⟩
    exact ⟨starvation, defects, network⟩
  · rintro ⟨starvation, defects, network⟩
    refine ⟨offlineRule_truthful, staleRule_truthful aged, bottleneckRule_truthful, starvation,
      defects, toolWearRule_truthful, network, ?_⟩
    nofun

theorem evaluateSnapshotRules_mem (done : evaluateSnapshotRules env snapshot = .ok conclusions) :
    ∃ concluded overproduction late,
      List.Forall₂ (fun node found => nodeRules env snapshot node = .ok found)
        (ruleNodes snapshot) concluded ∧
      turningOverproductionRule env snapshot = .ok overproduction ∧
      ineffectiveCommandRules env snapshot = .ok late ∧
      ∀ conclusion, conclusion ∈ conclusions ↔ conclusion ∈ concluded.flatten ∨
        conclusion ∈ overproduction ∨ conclusion ∈ late := by
  obtain ⟨concluded, single, done⟩ := of_bind done
  obtain ⟨overproduction, above, done⟩ := of_bind done
  obtain ⟨late, commanded, done⟩ := of_bind done
  cases done
  refine ⟨concluded, overproduction, late, mapM_forall₂ single, above, commanded, ?_⟩
  intro conclusion
  rw [List.mem_mergeSort, List.mem_append, List.mem_append, Option.mem_toList, or_assoc]
  exact Iff.rfl

theorem ineffectiveCommandRules_truthful {late : List Conclusion}
    (done : ineffectiveCommandRules env snapshot = .ok late) :
    ∀ conclusion ∈ late, conclusion.Truthful := by
  obtain ⟨nodes, -, done⟩ := of_bind done
  obtain ⟨commands, -, done⟩ := of_bind done
  obtain ⟨reports, reported, done⟩ := of_bind done
  cases done
  refine forall_reduceOption.mpr fun report member => ?_
  obtain ⟨command, -, done⟩ := exists_left_of_forall₂ (mapM_forall₂ reported) member
  exact ineffectiveCommandRule_truthful done

/-- The evidence of a snapshot is truthful exactly when no rule lists an item that has not
triggered it, and no ratio is rounded down to its limit. -/
theorem evaluateSnapshotRules_truthful_iff {conclusions : List Conclusion}
    (done : evaluateSnapshotRules env snapshot = .ok conclusions) :
    (∀ conclusion ∈ conclusions, ∀ item ∈ conclusion.evidence, item.Truthful) ↔
      (∀ node ∈ ruleNodes snapshot, NodeShown env node) ∧ OverproductionShown env snapshot := by
  obtain ⟨concluded, overproduction, late, each, above, commanded, members⟩ :=
    evaluateSnapshotRules_mem done
  have nodes : (∀ conclusion ∈ concluded.flatten, conclusion.Truthful) ↔
      ∀ node ∈ ruleNodes snapshot, NodeShown env node := by
    constructor
    · intro truthful node member
      obtain ⟨found, listed, done⟩ := exists_right_of_forall₂ each member
      exact (nodeRules_truthful_iff done).mp fun conclusion given =>
        truthful conclusion (List.mem_flatten.mpr ⟨found, listed, given⟩)
    · intro shown conclusion given
      obtain ⟨found, listed, given⟩ := List.mem_flatten.mp given
      obtain ⟨node, member, done⟩ := exists_left_of_forall₂ each listed
      exact (nodeRules_truthful_iff done).mpr (shown node member) conclusion given
  rw [← nodes, ← turningOverproductionRule_truthful_iff above]
  constructor
  · intro truthful
    exact ⟨fun conclusion given => truthful conclusion ((members _).mpr (.inl given)),
      fun conclusion given => truthful conclusion ((members _).mpr (.inr (.inl given)))⟩
  · rintro ⟨single, overall⟩ conclusion given
    rcases (members conclusion).mp given with given | given | given
    · exact single conclusion given
    · exact overall conclusion given
    · exact ineffectiveCommandRules_truthful commanded conclusion given

def sampleRuleEnv : RuleEnv := ⟨sampleBuiltins, fun _ => "", fun _ => none⟩

def sampleDefectNode : Fields :=
  [("node_code", .str "milling-workshop-01"), ("status", .str "running"),
    ("production", .obj [("wip_input", .int 6), ("wip_output", .int 5),
      ("target_rate", .float 1), ("actual_rate", .float (9 / 10)),
      ("utilization", .float (7 / 10)), ("defect_rate", .float (7 / 100))])]

def sampleDefectSnapshot : Fields := [("nodes", .arr [.obj sampleDefectNode])]

theorem sampleDefectSnapshot_evaluates :
    (evaluateSnapshotRules sampleRuleEnv sampleDefectSnapshot).isOk = true := by
  decide +kernel

/-- The change of the defect rate is given as evidence although there is none. -/
theorem unchanged_defect_rate_reported : ∃ conclusions,
    evaluateSnapshotRules sampleRuleEnv sampleDefectSnapshot = .ok conclusions ∧
      ¬∀ conclusion ∈ conclusions, ∀ item ∈ conclusion.evidence, item.Truthful := by
  obtain ⟨conclusions, done⟩ := exists_ok sampleDefectSnapshot_evaluates
  obtain ⟨concluded, _, _, each, -, -, members⟩ := evaluateSnapshotRules_mem done
  refine ⟨conclusions, done, fun truthful => ?_⟩
  have listed : sampleDefectNode ∈ ruleNodes sampleDefectSnapshot := .head _
  obtain ⟨found, there, done⟩ := exists_right_of_forall₂ each listed
  have shown := (nodeRules_truthful_iff done).mp fun conclusion given =>
    truthful conclusion ((members _).mpr (.inl (List.mem_flatten.mpr ⟨found, there, given⟩)))
  have change : produced sampleRuleEnv sampleDefectNode "defect_rate_delta" = 0 := by
    decide +kernel
  have defects := (shown.defects (by decide +kernel)).2
  rw [change] at defects
  norm_num at defects

theorem sampleDefectSnapshot_truthful_iff : ∃ conclusions,
    evaluateSnapshotRules sampleRuleEnv sampleDefectSnapshot = .ok conclusions ∧
      ((∀ conclusion ∈ conclusions, ∀ item ∈ conclusion.evidence, item.Truthful) ↔
        (∀ node ∈ ruleNodes sampleDefectSnapshot, NodeShown sampleRuleEnv node) ∧
          OverproductionShown sampleRuleEnv sampleDefectSnapshot) := by
  obtain ⟨conclusions, done⟩ := exists_ok sampleDefectSnapshot_evaluates
  exact ⟨conclusions, done, evaluateSnapshotRules_truthful_iff done⟩

end Rules

end MiniOgas
