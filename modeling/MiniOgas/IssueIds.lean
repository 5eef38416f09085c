import MiniOgas.Credentials
import MiniOgas.Escalations
import MiniOgas.TransportContract

namespace MiniOgas

/-- An alert type of the heartbeat alarms or of the store's own rules. -/
structure AlertType where
  value : String
  known : alarmType value = true ∨
    value ∈ ["disk_pressure", "cpu_latency_correlation", "hostile_traffic"]

structure NodeCode where
  value : String
  plain : matchesNodeCode value = true

section Parsing

variable (parts : List (List Char))

/-- `part.isdigit() and len(part) <= 3`. -/
def isShortNumber (part : List Char) : Bool :=
  part ≠ [] && part.all Char.isDigit && part.length ≤ 3

/-- `part == part.upper() and len(part) > 2 and not part.isdigit()`. -/
def isUpperWord (part : List Char) : Bool :=
  part.map Char.toUpper = part && 2 < part.length && !(part ≠ [] && part.all Char.isDigit)

/-- The `node_end` that the two loops leave. -/
def guessNodeEnd : Nat :=
  match parts.findIdx? isShortNumber with
  | some index => index + 1
  | none => (parts.findIdx? isUpperWord).getD 0

def nodeEnd : Nat :=
  let nodeEnd := guessNodeEnd parts
  if nodeEnd = 0 ∨ parts.length ≤ nodeEnd then min 3 (max 1 (parts.length - 1)) else nodeEnd

def joinParts : String := String.ofList (['-'].intercalate parts)

def parseIssueId (issueId : String) : String × String :=
  let parts := issueId.toList.splitOn '-'
  (joinParts (parts.take (nodeEnd parts)), joinParts (parts.drop (nodeEnd parts)))

end Parsing

def issueId (nodeCode alertType : String) : String := nodeCode ++ "-" ++ alertType

def findAlert (env : StoreEnv) (store : MemoryStore) (alerts : List Alert) (issueId : String) :
    Option Alert :=
  alerts.reverse.find? fun alert => alert.nodeCode = (parseIssueId issueId).1 &&
    alert.alertType = (parseIssueId issueId).2 && alertInCurrentRun env store alert

/-- The parts of the node code end where `_parse_issue_id` looks for its end. -/
def Decodable (nodeCode alertType : String) : Prop :=
  let parts := nodeCode.toList.splitOn '-'
  (∃ index, parts.findIdx? isShortNumber = some index ∧ index + 1 = parts.length) ∨
    parts.findIdx? isShortNumber = none ∧
      (parts.findIdx? isUpperWord = some 0 ∧ parts.length ≤ 3 ∨
        parts.findIdx? isUpperWord = none ∧
          (isUpperWord alertType.toList = true ∨ parts.length ≤ 3))

section Laws

variable {parts : List (List Char)} {nodeCode : String} {alertType : AlertType} {xs : List Char}

theorem nodeEnd_bounds (several : 2 ≤ parts.length) :
    1 ≤ nodeEnd parts ∧ nodeEnd parts < parts.length := by
  unfold nodeEnd
  dsimp only
  split
  next => omega
  next within => omega

theorem not_mem_of_mem_splitOn {part : List Char} (member : part ∈ xs.splitOn '-') :
    '-' ∉ part := by
  induction xs generalizing part with
  | nil =>
    have empty : part = [] := by simpa using member
    simp [empty]
  | cons x xs ih =>
    rw [List.splitOn_cons_eq_if_modifyHead] at member
    split at member
    next =>
      rcases List.mem_cons.mp member with rfl | member
      · exact List.not_mem_nil
      · exact ih member
    next other =>
      cases rest : xs.splitOn '-' with
      | nil => exact absurd rest (List.splitOn_ne_nil '-' xs)
      | cons first others =>
        rw [rest] at member ih
        rcases List.mem_cons.mp member with rfl | member
        · have : '-' ≠ x := fun same => other (beq_iff_eq.mpr same.symm)
          simp [this, ih (List.mem_cons_self)]
        · exact ih (List.mem_cons_of_mem _ member)

theorem AlertType.letters (alertType : AlertType) :
    '-' ∉ alertType.value.toList ∧ isShortNumber alertType.value.toList = false := by
  rcases alertType.known with alarm | own
  · unfold alarmType at alarm
    split at alarm
    next => cases alarm
    next first rest letters =>
      simp only [Bool.and_eq_true, decide_eq_true_eq, List.all_eq_true, Bool.or_eq_true] at alarm
      obtain ⟨⟨upper, -⟩, others⟩ := alarm
      have above : (65 : UInt32) ≤ first.val := upper.1
      have noDigit : first.isDigit = false := by
        simp only [Char.isDigit, Bool.and_eq_false_iff, decide_eq_false_iff_not, UInt32.not_le]
        exact Or.inr (UInt32.lt_of_lt_of_le (by decide) above)
      rw [letters]
      refine ⟨fun member => ?_, by simp [isShortNumber, noDigit]⟩
      rcases List.mem_cons.mp member with rfl | member
      · exact absurd upper (by decide)
      · exact absurd (others _ member) (by decide)
  · revert own
    generalize alertType.value = value
    intro own
    simp only [List.mem_cons, List.not_mem_nil, or_false] at own
    rcases own with rfl | rfl | rfl <;> decide

theorem splitOn_issueId : (issueId nodeCode alertType.value).toList.splitOn '-' =
    nodeCode.toList.splitOn '-' ++ [alertType.value.toList] := by
  have written : (issueId nodeCode alertType.value).toList =
      nodeCode.toList ++ '-' :: alertType.value.toList := by
    simp [issueId, String.toList_append]
  rw [written, List.splitOn_append_cons_self,
    List.splitOn_eq_singleton alertType.letters.1]

theorem parseIssueId_eq_iff : parseIssueId (issueId nodeCode alertType.value) =
      (nodeCode, alertType.value) ↔
    nodeEnd (nodeCode.toList.splitOn '-' ++ [alertType.value.toList]) =
      (nodeCode.toList.splitOn '-').length := by
  have nonempty := List.length_pos_of_ne_nil (List.splitOn_ne_nil '-' nodeCode.toList)
  have several : 2 ≤ (nodeCode.toList.splitOn '-' ++ [alertType.value.toList]).length := by
    rw [List.length_append, List.length_singleton]
    omega
  have bounds := nodeEnd_bounds several
  simp only [parseIssueId, splitOn_issueId, Prod.mk.injEq]
  generalize nodeEnd (nodeCode.toList.splitOn '-' ++ [alertType.value.toList]) = found at *
  rw [List.length_append, List.length_singleton] at bounds
  constructor
  · rintro ⟨-, type⟩
    have letters := congrArg (fun s => s.toList.splitOn '-') type
    simp only [joinParts, String.toList_ofList] at letters
    rw [List.splitOn_intercalate] at letters
    · rw [List.splitOn_eq_singleton alertType.letters.1] at letters
      have lengths := congrArg List.length letters
      simp at lengths
      omega
    · intro part member
      rcases Serial.of_mem_concat (List.mem_of_mem_drop member) with member | rfl
      · exact not_mem_of_mem_splitOn member
      · exact alertType.letters.1
    · exact List.ne_nil_of_length_pos (by simp; omega)
  · rintro rfl
    simp [joinParts, List.intercalate_splitOn]

theorem nodeEnd_eq_iff : nodeEnd (nodeCode.toList.splitOn '-' ++ [alertType.value.toList]) =
    (nodeCode.toList.splitOn '-').length ↔ Decodable nodeCode alertType.value := by
  have nonempty := List.length_pos_of_ne_nil (List.splitOn_ne_nil '-' nodeCode.toList)
  unfold nodeEnd guessNodeEnd Decodable
  dsimp only
  generalize nodeCode.toList.splitOn '-' = parts at *
  have noNumber : [alertType.value.toList].findIdx? isShortNumber = none := by
    simp [alertType.letters.2]
  rw [List.findIdx?_append, List.findIdx?_append, noNumber]
  have within {p : List Char → Bool} {index : Nat} (found : parts.findIdx? p = some index) :
      index < parts.length := (List.findIdx?_eq_some_iff_getElem.mp found).1
  have numberWithin := @within isShortNumber
  have wordWithin := @within isUpperWord
  generalize parts.findIdx? isShortNumber = number at *
  generalize parts.findIdx? isUpperWord = word at *
  cases number with
  | some index =>
    have := numberWithin rfl
    simp [Nat.not_le.mpr this]
  | none =>
    cases word with
    | some index =>
      have := wordWithin rfl
      by_cases first : index = 0
      · simp [first]
        omega
      · simp [first, Nat.not_le.mpr (Nat.lt_succ_of_lt this)]
        omega
    | none =>
      cases upper : isUpperWord alertType.value.toList with
      | false =>
        simp [upper]
        omega
      | true => simp [upper, nonempty.ne']

end Laws

/-- The alerts that an issue id finds are those of its node and type, and nothing else is read
from the id, iff its node code is decodable. -/
theorem issueId_decodes_iff (nodeCode : NodeCode) (alertType : AlertType) :
    (parseIssueId (issueId nodeCode.value alertType.value) = (nodeCode.value, alertType.value) ∧
      ∀ env store alerts alert,
        findAlert env store alerts (issueId nodeCode.value alertType.value) = some alert →
        alert.nodeCode = nodeCode.value ∧ alert.alertType = alertType.value) ↔
      Decodable nodeCode.value alertType.value := by
  rw [← nodeEnd_eq_iff, ← parseIssueId_eq_iff]
  refine ⟨And.left, fun parsed => ⟨parsed, fun env store alerts alert found => ?_⟩⟩
  have picked := List.find?_some found
  rw [parsed] at picked
  simp only [Bool.and_eq_true, decide_eq_true_eq] at picked
  exact picked.1

def sampleCell : NodeCode := ⟨"line-1-cell", by decide⟩

def sampleAlarm : AlertType := ⟨"SPINDLE_TEMP_HIGH", Or.inl (by decide)⟩

/-- A number inside the node code is taken for its end. -/
theorem inner_number_misread : ¬ ∀ (nodeCode : NodeCode) (alertType : AlertType),
    parseIssueId (issueId nodeCode.value alertType.value) = (nodeCode.value, alertType.value) := by
  intro h
  exact absurd (h sampleCell sampleAlarm) (by decide +kernel)

end MiniOgas
