import MiniOgas.Serial
import MiniOgas.Payload

namespace MiniOgas

/-- A `dict` with text keys. -/
abbrev Fields := List (String × Json)

def Fields.get (fields : Fields) (key : String) : Json :=
  ((fields.find? (·.1 = key)).map (·.2)).getD .null

/-- `fields[key] = value`. -/
def Fields.set (fields : Fields) (key : String) (value : Json) : Fields :=
  if fields.any (·.1 = key) then
    fields.map fun field => if field.1 = key then (key, value) else field
  else fields ++ [(key, value)]

def Fields.setDefault (fields : Fields) (key : String) (value : Json) : Fields :=
  if fields.any (·.1 = key) then fields else fields ++ [(key, value)]

def Fields.pop (fields : Fields) (key : String) : Fields := fields.filter (·.1 ≠ key)

theorem Fields.get_set (fields : Fields) (key other : String) (value : Json) :
    (fields.set key value).get other = if other = key then value else fields.get other := by
  unfold Fields.set
  split
  next present =>
    have keys : ((fun field : String × Json => decide (field.1 = other)) ∘
        fun field => if field.1 = key then (key, value) else field) =
        fun field => decide (field.1 = other) := by
      funext field
      by_cases same : field.1 = key <;> simp [same]
    unfold Fields.get
    rw [List.find?_map, keys]
    cases found : fields.find? fun field => field.1 = other with
    | none =>
      obtain ⟨field, there, own⟩ := List.any_eq_true.mp present
      have absent := List.find?_eq_none.mp found field there
      rw [if_neg (fun same : other = key => absent (same ▸ own))]
      rfl
    | some field =>
      have own : field.1 = other := by simpa using List.find?_some found
      by_cases same : other = key <;> simp [own, same]
  next absent =>
    have none : fields.find? (fun field => field.1 = key) = none := by
      rw [List.find?_eq_none]
      exact fun field there own => absent (List.any_eq_true.mpr ⟨field, there, own⟩)
    unfold Fields.get
    rw [List.find?_append]
    by_cases same : other = key
    · rw [same, none, if_pos rfl]
      simp
    · have skip : [(key, value)].find? (fun field => field.1 = other) = .none := by
        simpa using fun own => same own.symm
      rw [skip, Option.or_none, if_neg same]

theorem Fields.get_setDefault_of_ne (fields : Fields) {key other : String} (value : Json)
    (ne : other ≠ key) : (fields.setDefault key value).get other = fields.get other := by
  unfold Fields.setDefault
  split
  next => rfl
  next =>
    have skip : [(key, value)].find? (fun field => field.1 = other) = none := by
      simpa using fun own => ne own.symm
    unfold Fields.get
    rw [List.find?_append, skip, Option.or_none]

theorem Fields.get_pop_of_ne (fields : Fields) {key other : String} (ne : other ≠ key) :
    (fields.pop key).get other = fields.get other := by
  unfold Fields.pop Fields.get
  rw [List.find?_filter]
  have keys : (fun field : String × Json => decide (decide (field.1 ≠ key) = true ∧
      decide (field.1 = other) = true)) = fun field => decide (field.1 = other) := by
    funext field
    by_cases own : field.1 = other
    · simp [own, ne]
    · simp [own]
  rw [keys]

theorem Fields.get_pop (fields : Fields) (key : String) : (fields.pop key).get key = .null := by
  have none : (fields.pop key).find? (fun field => field.1 = key) = none := by
    rw [List.find?_eq_none]
    intro field member same
    exact of_decide_eq_true (List.mem_filter.mp member).2 (of_decide_eq_true same)
  unfold Fields.get
  rw [none]
  rfl

def Json.truthy : Json → Bool
  | .null => false
  | .bool b => b
  | .int n => n ≠ 0
  | .float q => q ≠ 0
  | .str s => s ≠ ""
  | .time _ => true
  | .arr items => !items.isEmpty
  | .obj fields => !fields.isEmpty

/-- `value or other`. -/
def Json.or (value other : Json) : Json := if value.truthy then value else other

/-- `value if isinstance(value, dict) else {}`. -/
def Json.dict : Json → Fields
  | .obj fields => fields
  | _ => []

/-- `value if isinstance(value, list) else []`. -/
def Json.list : Json → List Json
  | .arr items => items
  | _ => []

/-- `value == text`. -/
def Json.isText (value : Json) (text : String) : Bool :=
  match value with
  | .str s => s = text
  | _ => false

/-- `str`, `int` and `float` of a value; the last two raise on some. -/
structure Builtins where
  str : Json → String
  int : Json → Option Int
  float : Json → Option ℚ

def Builtins.text (builtins : Builtins) : Json → String
  | .str s => s
  | value => builtins.str value

def Json.asInt : Json → Option Int
  | .int n => some n
  | _ => none

def Json.asFloat : Json → Option ℚ
  | .float q => some q
  | .int n => some n
  | _ => none

def sampleBuiltins : Builtins := ⟨fun _ => "", Json.asInt, Json.asFloat⟩

inductive ControlFault where
  | valueError (message : String)
  | typeError (message : String)

inductive CommandStatus where
  | waitingApproval
  | pending
  | queued
  | claimed
  | executed
  | applied
  | failed
  | verified
  | rejected
  | expired
  | superseded
  | cancelled
deriving DecidableEq

def CommandStatus.text : CommandStatus → String
  | .waitingApproval => "waiting_approval"
  | .pending => "pending"
  | .queued => "queued"
  | .claimed => "claimed"
  | .executed => "executed"
  | .applied => "applied"
  | .failed => "failed"
  | .verified => "verified"
  | .rejected => "rejected"
  | .expired => "expired"
  | .superseded => "superseded"
  | .cancelled => "cancelled"

/-- `CLAIMABLE_STATUSES`. -/
def CommandStatus.claimable (status : CommandStatus) : Bool :=
  status = .pending || status = .queued

/-- `TERMINAL_STATUSES`. -/
def CommandStatus.terminal (status : CommandStatus) : Bool :=
  status = .failed || status = .verified || status = .rejected || status = .expired ||
    status = .superseded || status = .cancelled

/-- `RETRYABLE_STATUSES`. -/
def CommandStatus.retryable (status : CommandStatus) : Bool :=
  status = .failed || status = .rejected || status = .expired || status = .cancelled

/-- The statuses that `supersede_pending` overwrites. -/
def CommandStatus.open (status : CommandStatus) : Bool :=
  status = .waitingApproval || status = .pending || status = .queued

/-- `partlyEffective` is `partial`. -/
inductive VerificationStatus where
  | notStarted
  | observing
  | verified
  | effective
  | partlyEffective
  | failed
  | inconclusive
deriving DecidableEq

/-- `TERMINAL_VERIFICATION_STATUSES`. -/
def VerificationStatus.terminal (status : VerificationStatus) : Bool :=
  status = .effective || status = .partlyEffective || status = .failed || status = .inconclusive

structure NodeCommand where
  id : Nat
  nodeCode : String
  commandType : String
  riskLevel : String
  status : CommandStatus
  operator : String
  parameters : Fields := []
  claimedBy : String := ""
  resultMessage : String := ""
  version : Int := 1
  expiresAt : Option Timestamp := none
  dispatchedAt : Option Timestamp := none
  receivedAt : Option Timestamp := none
  appliedAt : Option Timestamp := none
  verifiedAt : Option Timestamp := none
  attemptCount : Nat := 0
  verificationStatus : VerificationStatus := .notStarted
  verificationBaseline : List (String × Fields) := []
  verificationEvidence : Fields := []
  createdAt : Timestamp
  updatedAt : Timestamp

def NodeCommand.isOpen (command : NodeCommand) (nodeCode commandType : String) : Bool :=
  command.nodeCode = nodeCode && command.commandType = commandType && command.status.open

structure CommandTransition where
  command : NodeCommand
  stage : String
  message : String

end MiniOgas
