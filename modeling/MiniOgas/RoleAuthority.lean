import MiniOgas.ControlTables
import Mathlib.Data.List.Dedup

namespace MiniOgas

structure Collation where
  before : String → String → Prop
  decidable : DecidableRel before
  total : ∀ s t, before s t ∨ before t s
  trans : ∀ s t u, before s t → before t u → before s u
  antisymm : ∀ s t, before s t → before t s → s = t

instance collationDecidable (collation : Collation) : DecidableRel collation.before :=
  collation.decidable

instance (collation : Collation) : Std.Total collation.before := ⟨collation.total⟩

instance (collation : Collation) : IsTrans String collation.before := ⟨collation.trans⟩

structure UserRow where
  username : String
  displayName : String
  passwordHash : String
  passwordSalt : String
  active : Bool

/-- The tables `users`, `user_roles` and `role_permissions`. -/
structure AuthTables where
  users : List UserRow
  userRoles : List (String × String)
  rolePermissions : List (String × String)

def AuthTables.rolesOf (tables : AuthTables) (username : String) : List String :=
  (tables.userRoles.filter (·.1 = username)).map (·.2)

def AuthTables.permissionsOf (tables : AuthTables) (username : String) : List String :=
  (tables.rolePermissions.filter fun row => row.1 ∈ tables.rolesOf username).map (·.2)

/-- What `authenticate_user` returns. -/
structure AuthenticatedUser where
  username : String
  displayName : String
  roles : List String
  permissions : List String

structure AuthEnv where
  collation : Collation
  verifyPassword : String → String → String → Bool
  authJwtTtlSeconds : Int

structure AccessToken where
  sub : String
  name : String
  roles : List String
  permissions : List String
  exp : Int
  principalId : String
  principalType : String

/-- `ActorInfo`, with its roles and permissions. -/
structure TokenActor extends ActorInfo where
  roles : List String
  permissions : List String

section Login

variable (env : AuthEnv) (tables : AuthTables)

def authenticateUser (loginName password : String) : Option AuthenticatedUser := do
  guard (loginName ≠ "" ∧ password ≠ "")
  let user ← tables.users.find? fun user =>
    user.username = loginName || user.displayName = loginName
  guard (user.active = true)
  guard (env.verifyPassword password user.passwordHash user.passwordSalt = true)
  return {
    username := user.username
    displayName := user.displayName
    roles := (tables.rolesOf user.username).insertionSort env.collation.before
    permissions :=
      (tables.permissionsOf user.username).dedup.insertionSort env.collation.before }

def issueAccessToken (now : Int) (user : AuthenticatedUser) : AccessToken where
  sub := user.username
  name := user.displayName
  roles := user.roles
  permissions := user.permissions
  exp := now + env.authJwtTtlSeconds
  principalId := "user:" ++ user.username
  principalType := "human"

def decodeAccessToken (now : Int) (token : AccessToken) : Option AccessToken :=
  if token.exp ≤ now then none else some token

/-- The actor that `security_middleware` takes from the claims of a token. -/
def middlewareActor (claims : AccessToken) : TokenActor where
  principalId := claims.principalId
  principalType := claims.principalType
  username := claims.sub
  displayName := if claims.name = "" then claims.sub else claims.name
  role := claims.roles.head?.getD "viewer"
  roles := claims.roles
  permissions := claims.permissions

structure LoginSession where
  loginName : String
  password : String
  issuedAt : Int
  requestedAt : Int

def sessionActor (session : LoginSession) : Option TokenActor := do
  let user ← authenticateUser env tables session.loginName session.password
  let claims ← decodeAccessToken session.requestedAt (issueAccessToken env session.issuedAt user)
  return middlewareActor claims

end Login

structure NodeSafetyActionIn where
  confirmationCode : String := ""
  runMode : String := "normal"

inductive SafetyRequest where
  | isolateNode (nodeCode : String) (payload : NodeSafetyActionIn)
  | restoreNode (nodeCode : String) (payload : NodeSafetyActionIn)
  | retireNode (nodeCode : String) (payload : NodeSafetyActionIn)
  | approveCommand (commandType nodeCode riskLevel confirmationCode : String)
  | approveDispatchPlan (confirmationCode : String)
  | approveEscalation (confirmationCode : String)

/-- What a user asks for; `route` stands for the routes that only a permission guards. -/
inductive UserAction where
  | route (permission : String)
  | safety (request : SafetyRequest)

structure Deployment where
  knownNodes : List String
  readOnly : Bool := false

namespace SafetyRequest

def permission : SafetyRequest → String
  | isolateNode .. => "node:isolate"
  | restoreNode .. | retireNode .. => "node:restore"
  | approveCommand .. | approveDispatchPlan _ | approveEscalation _ => "command:approve"

def confirmationCode : SafetyRequest → String
  | isolateNode _ payload | restoreNode _ payload | retireNode _ payload =>
    payload.confirmationCode
  | approveCommand _ _ _ code | approveDispatchPlan code | approveEscalation code => code

def runMode : SafetyRequest → String
  | isolateNode _ payload | restoreNode _ payload | retireNode _ payload => payload.runMode
  | approveCommand .. | approveDispatchPlan _ | approveEscalation _ => "normal"

def action : SafetyRequest → String
  | isolateNode .. => "isolate_node"
  | restoreNode .. => "restore_node"
  | retireNode .. => "retire_node"
  | approveCommand commandType .. => commandType
  | approveDispatchPlan _ => "dispatch_plan_approve"
  | approveEscalation _ => "escalation_approve"

def riskLevel : SafetyRequest → String
  | approveCommand _ _ riskLevel _ => riskLevel
  | isolateNode .. | restoreNode .. | retireNode .. | approveDispatchPlan _
  | approveEscalation _ => "high"

def targetNode : SafetyRequest → String
  | isolateNode nodeCode _ | restoreNode nodeCode _ | retireNode nodeCode _
  | approveCommand _ nodeCode _ _ => nodeCode
  | approveDispatchPlan _ | approveEscalation _ => ""

def review (deployment : Deployment) (actor : TokenActor) (request : SafetyRequest) :
    SafetyReview where
  action := request.action
  targetNode := request.targetNode
  riskLevel := request.riskLevel
  actorRole := actor.role
  actorId := actorIdentity actor.toActorInfo
  knownNodes := deployment.knownNodes
  confirmationCode := some request.confirmationCode
  runMode := request.runMode

/-- `review_control_action` and `review_manual_approval`, which looks at no target. -/
def decide (deployment : Deployment) (actor : TokenActor) (request : SafetyRequest) :
    SafetyDecision :=
  match request with
  | approveDispatchPlan _ | approveEscalation _ =>
    SafetyGovernor.confirmationGate (request.review deployment actor)
  | isolateNode .. | restoreNode .. | retireNode .. | approveCommand .. =>
    SafetyGovernor.reviewControlAction (request.review deployment actor)

/-- `_require_operator_control`, and the node that the routes of the nodes look up. -/
def reachable (deployment : Deployment) : SafetyRequest → Bool
  | isolateNode nodeCode _ | restoreNode nodeCode _ | retireNode nodeCode _ =>
    !deployment.readOnly && deployment.knownNodes.contains nodeCode
  | approveCommand .. | approveDispatchPlan _ | approveEscalation _ => true

end SafetyRequest

def permits (deployment : Deployment) (actor : TokenActor) : UserAction → Bool
  | .route permission => actor.permissions.contains permission
  | .safety request => actor.permissions.contains request.permission &&
    request.reachable deployment && (request.decide deployment actor).allow

def allowed (env : AuthEnv) (tables : AuthTables) (deployment : Deployment) (session : LoginSession)
    (action : UserAction) : Bool :=
  (sessionActor env tables session).any fun actor => permits deployment actor action

def sessionUser (env : AuthEnv) (users : List UserRow) (session : LoginSession) :
    Option UserRow := do
  guard (session.loginName ≠ "" ∧ session.password ≠ "")
  let user ← users.find? fun user =>
    user.username = session.loginName || user.displayName = session.loginName
  guard (user.active = true)
  guard (env.verifyPassword session.password user.passwordHash user.passwordSalt = true)
  guard (session.requestedAt < session.issuedAt + env.authJwtTtlSeconds)
  return user

def userActor (env : AuthEnv) (tables : AuthTables) (issuedAt : Int) (user : UserRow) :
    TokenActor :=
  middlewareActor (issueAccessToken env issuedAt {
    username := user.username
    displayName := user.displayName
    roles := (tables.rolesOf user.username).insertionSort env.collation.before
    permissions :=
      (tables.permissionsOf user.username).dedup.insertionSort env.collation.before })

structure AdminFirst (collation : Collation) (roles : List String) : Prop where
  member : "system_admin" ∈ roles
  first : ∀ role ∈ roles, collation.before "system_admin" role

/-- An action that the gate lets a system administrator do, and no one else. -/
def SafetyRequest.needsAdmin (request : SafetyRequest) : Prop :=
  SafetyGovernor.normalizeRisk request.action request.riskLevel = "high" ∨
    request.action ∈ highRiskActions

def SafetyRequest.targeted (deployment : Deployment) (request : SafetyRequest) : Bool :=
  (request.targetNode = "" || deployment.knownNodes.contains request.targetNode) &&
    !(request.action = "isolate_node" && controlPlaneNodes.contains request.targetNode)

structure PassesButRole (tables : AuthTables) (deployment : Deployment) (user : UserRow)
    (request : SafetyRequest) : Prop where
  permission : request.permission ∈ tables.permissionsOf user.username
  reachable : request.reachable deployment = true
  targeted : request.targeted deployment = true
  needsAdmin : request.needsAdmin
  confirmed : request.confirmationCode = confirmationCode

structure MoreRoles (tables tables' : AuthTables) : Prop where
  users : tables'.users = tables.users
  rolePermissions : tables'.rolePermissions = tables.rolePermissions
  roles : ∀ username, tables.rolesOf username ⊆ tables'.rolesOf username

def UserAction.runMode : UserAction → String
  | .route _ => "normal"
  | .safety request => request.runMode

/-- Where a user whose first role is the system administrator asks for what passes all other
checks, no role that sorts before it is added. -/
def KeepsAdminFirst (env : AuthEnv) (tables tables' : AuthTables) (deployment : Deployment)
    (session : LoginSession) : UserAction → Prop
  | .route _ => True
  | .safety request => ∀ user, sessionUser env tables.users session = some user →
    PassesButRole tables deployment user request →
      AdminFirst env.collation (tables.rolesOf user.username) →
        AdminFirst env.collation (tables'.rolesOf user.username)

section Laws

variable {env : AuthEnv} {tables tables' : AuthTables} {deployment : Deployment}
  {session : LoginSession} {user : UserRow} {request : SafetyRequest} {actor : TokenActor}

theorem head?_sorted_eq_some_iff (collation : Collation) {texts : List String} {s : String} :
    (texts.insertionSort collation.before).head? = some s ↔
      s ∈ texts ∧ ∀ t ∈ texts, collation.before s t := by
  have sorted := List.pairwise_insertionSort collation.before texts
  have members : ∀ t, t ∈ texts.insertionSort collation.before ↔ t ∈ texts := fun t =>
    List.mem_insertionSort collation.before
  cases listed : texts.insertionSort collation.before with
  | nil =>
    rw [listed] at members
    refine iff_of_false (by simp) fun both => ?_
    exact List.not_mem_nil ((members s).mpr both.1)
  | cons first rest =>
    rw [listed] at sorted members
    have before := (List.pairwise_cons.mp sorted).1
    have least : ∀ t ∈ texts, collation.before first t := by
      intro t member
      rcases List.mem_cons.mp ((members t).mpr member) with rfl | later
      · exact (collation.total t t).elim id id
      · exact before t later
    rw [List.head?_cons, Option.some.injEq]
    constructor
    · rintro rfl
      exact ⟨(members first).mp List.mem_cons_self, least⟩
    · rintro ⟨member, least'⟩
      exact collation.antisymm first s (least s member)
        (least' first ((members first).mp List.mem_cons_self))

theorem userActor_role_iff (issuedAt : Int) :
    (userActor env tables issuedAt user).role = "system_admin" ↔
      AdminFirst env.collation (tables.rolesOf user.username) := by
  have role : (userActor env tables issuedAt user).role =
      ((tables.rolesOf user.username).insertionSort env.collation.before).head?.getD "viewer" :=
    rfl
  have first := @head?_sorted_eq_some_iff env.collation (tables.rolesOf user.username)
    "system_admin"
  rw [role]
  constructor
  · intro same
    have head : ((tables.rolesOf user.username).insertionSort env.collation.before).head? =
        some "system_admin" := by
      cases given : ((tables.rolesOf user.username).insertionSort env.collation.before).head? with
      | none =>
        rw [given] at same
        have none : "viewer" = "system_admin" := same
        exact absurd none (by decide)
      | some role =>
        rw [given] at same
        exact congrArg some same
    obtain ⟨member, least⟩ := first.mp head
    exact ⟨member, least⟩
  · intro admin
    rw [first.mpr ⟨admin.member, admin.first⟩]
    rfl

theorem mem_userActor_permissions (issuedAt : Int) {permission : String} :
    permission ∈ (userActor env tables issuedAt user).permissions ↔
      permission ∈ tables.permissionsOf user.username := by
  have listed : (userActor env tables issuedAt user).permissions =
      (tables.permissionsOf user.username).dedup.insertionSort env.collation.before := rfl
  rw [listed, List.mem_insertionSort, List.mem_dedup]

theorem sessionActor_eq : sessionActor env tables session =
    (sessionUser env tables.users session).map (userActor env tables session.issuedAt) := by
  unfold sessionActor authenticateUser sessionUser
  by_cases given : session.loginName ≠ "" ∧ session.password ≠ ""
  · cases found : tables.users.find? (fun user =>
        user.username = session.loginName || user.displayName = session.loginName) with
    | none => simp
    | some user =>
      by_cases active : user.active = true
      · by_cases verified : env.verifyPassword session.password user.passwordHash
            user.passwordSalt = true
        · by_cases fresh : session.requestedAt < session.issuedAt + env.authJwtTtlSeconds
          · have kept : ¬ session.issuedAt + env.authJwtTtlSeconds ≤ session.requestedAt := by
              omega
            simp [given, active, verified, fresh, kept, decodeAccessToken, issueAccessToken,
              userActor, guard]
          · have expired : session.issuedAt + env.authJwtTtlSeconds ≤ session.requestedAt := by
              omega
            simp [given, active, verified, fresh, expired, decodeAccessToken, issueAccessToken,
              guard]
        · simp [given, active, verified, guard]
      · simp [given, active, guard]
  · simp [given, guard]

theorem allowed_iff {action : UserAction} : allowed env tables deployment session action = true ↔
    ∃ user, sessionUser env tables.users session = some user ∧
      permits deployment (userActor env tables session.issuedAt user) action = true := by
  unfold allowed
  rw [sessionActor_eq]
  cases sessionUser env tables.users session with
  | none => simp
  | some user => simp

theorem confirmationGate_allow_iff (mode : request.runMode ≠ "emergency_containment") :
    (SafetyGovernor.confirmationGate (request.review deployment actor)).allow = true ↔
      (request.needsAdmin →
        request.confirmationCode = confirmationCode ∧ actor.role = "system_admin") := by
  have normal : ¬ ((request.review deployment actor).runMode = "emergency_containment" ∧
      (request.review deployment actor).actorRole = "safety_automation" ∧
      (request.review deployment actor).action = "isolate_node") := fun both => mode both.1
  unfold SafetyGovernor.confirmationGate
  rw [if_neg normal]
  by_cases needs : request.needsAdmin
  · have needed : SafetyGovernor.normalizeRisk (request.review deployment actor).action
        (request.review deployment actor).riskLevel = "high" ∨
        (request.review deployment actor).action ∈ highRiskActions := needs
    by_cases code : request.confirmationCode = confirmationCode
    · have given : (request.review deployment actor).confirmationCode =
          some confirmationCode := congrArg some code
      by_cases role : actor.role = "system_admin"
      · have admin : (request.review deployment actor).actorRole = "system_admin" := role
        rw [if_neg (by simp [given]), if_neg (by simp [admin])]
        simp [SafetyGovernor.decision, code, role]
      · have other : (request.review deployment actor).actorRole ≠ "system_admin" := role
        rw [if_neg (by simp [given]), if_pos ⟨needed, other⟩]
        simp [SafetyGovernor.decision, needs, role]
    · have other : (request.review deployment actor).confirmationCode ≠
          some confirmationCode := fun same => code (Option.some.inj same)
      rw [if_pos ⟨needed, other⟩]
      simp [SafetyGovernor.decision, needs, code]
  · have free : ¬ (SafetyGovernor.normalizeRisk (request.review deployment actor).action
        (request.review deployment actor).riskLevel = "high" ∨
        (request.review deployment actor).action ∈ highRiskActions) := needs
    rw [if_neg fun both => free both.1, if_neg fun both => free both.1]
    simp [SafetyGovernor.decision, needs]

theorem targeted_iff : request.targeted deployment = true ↔
    ¬ (request.targetNode ≠ "" ∧ request.targetNode ∉ deployment.knownNodes) ∧
      ¬ (request.action = "isolate_node" ∧ request.targetNode ∈ controlPlaneNodes) := by
  unfold SafetyRequest.targeted
  simp only [Bool.and_eq_true, Bool.or_eq_true, decide_eq_true_eq, List.contains_iff_mem,
    Bool.not_eq_true', not_and_or, not_not, ne_eq, Bool.eq_false_iff]

theorem reviewControlAction_allow_iff :
    (SafetyGovernor.reviewControlAction (request.review deployment actor)).allow = true ↔
      request.targeted deployment = true ∧
        (SafetyGovernor.confirmationGate (request.review deployment actor)).allow = true := by
  rw [targeted_iff]
  unfold SafetyGovernor.reviewControlAction
  by_cases unknown : (request.review deployment actor).targetNode ≠ "" ∧
      (request.review deployment actor).targetNode ∉ (request.review deployment actor).knownNodes
  · have missing : request.targetNode ≠ "" ∧ request.targetNode ∉ deployment.knownNodes :=
      unknown
    rw [if_pos unknown]
    exact iff_of_false (nofun) fun both => both.1.1 missing
  · by_cases control : (request.review deployment actor).action = "isolate_node" ∧
        (request.review deployment actor).targetNode ∈ controlPlaneNodes
    · have plane : request.action = "isolate_node" ∧
          request.targetNode ∈ controlPlaneNodes := control
      rw [if_neg unknown, if_pos control]
      exact iff_of_false (nofun) fun both => both.1.2 plane
    · rw [if_neg unknown, if_neg control]
      exact (and_iff_right ⟨unknown, control⟩).symm

theorem decide_allow_iff (mode : request.runMode ≠ "emergency_containment") :
    (request.decide deployment actor).allow = true ↔ request.targeted deployment = true ∧
      (request.needsAdmin →
        request.confirmationCode = confirmationCode ∧ actor.role = "system_admin") := by
  rw [← @confirmationGate_allow_iff deployment request actor mode]
  cases request with
  | isolateNode | restoreNode | retireNode | approveCommand =>
    exact reviewControlAction_allow_iff
  | approveDispatchPlan code | approveEscalation code =>
    refine (and_iff_right ?_).symm
    rfl

theorem permits_safety_iff (mode : request.runMode ≠ "emergency_containment") (issuedAt : Int) :
    permits deployment (userActor env tables issuedAt user) (.safety request) = true ↔
      request.permission ∈ tables.permissionsOf user.username ∧
        request.reachable deployment = true ∧ request.targeted deployment = true ∧
        (request.needsAdmin → request.confirmationCode = confirmationCode ∧
          AdminFirst env.collation (tables.rolesOf user.username)) := by
  unfold permits
  rw [Bool.and_eq_true, Bool.and_eq_true, decide_allow_iff mode, List.contains_iff_mem,
    mem_userActor_permissions, userActor_role_iff, and_assoc]

theorem MoreRoles.permissions (more : MoreRoles tables tables') (username : String) :
    tables.permissionsOf username ⊆ tables'.permissionsOf username := by
  intro permission member
  obtain ⟨row, granted, rfl⟩ := List.mem_map.mp member
  obtain ⟨listed, own⟩ := List.mem_filter.mp granted
  refine List.mem_map_of_mem (List.mem_filter.mpr ⟨more.rolePermissions ▸ listed, ?_⟩)
  have role : row.1 ∈ tables.rolesOf username := of_decide_eq_true own
  exact decide_eq_true (more.roles username role)

/-- More roles keep what is allowed, if and only if they keep the system administrator first where
the gate looks for it. -/
theorem adding_roles_keeps_iff (env : AuthEnv) (tables tables' : AuthTables)
    (deployment : Deployment) (session : LoginSession) (action : UserAction)
    (more : MoreRoles tables tables') (mode : action.runMode ≠ "emergency_containment") :
    (allowed env tables deployment session action = true →
        allowed env tables' deployment session action = true) ↔
      KeepsAdminFirst env tables tables' deployment session action := by
  rw [allowed_iff, allowed_iff, more.users]
  cases action with
  | route permission =>
    refine iff_of_true ?_ trivial
    rintro ⟨user, found, granted⟩
    refine ⟨user, found, ?_⟩
    unfold permits at granted ⊢
    rw [List.contains_iff_mem, mem_userActor_permissions] at granted ⊢
    exact more.permissions user.username granted
  | safety request =>
    have mode : request.runMode ≠ "emergency_containment" := mode
    cases found : sessionUser env tables.users session with
    | none => simp [KeepsAdminFirst, found]
    | some user =>
      have own : ∀ tables, (∃ other, some user = some other ∧
          permits deployment (userActor env tables session.issuedAt other) (.safety request) =
            true) ↔ permits deployment (userActor env tables session.issuedAt user)
              (.safety request) = true := by
        intro tables
        simp
      rw [own, own, permits_safety_iff mode, permits_safety_iff mode]
      unfold KeepsAdminFirst
      constructor
      · intro keeps other same passes first
        cases found.symm.trans same
        exact ((keeps ⟨passes.permission, passes.reachable, passes.targeted,
          fun _ => ⟨passes.confirmed, first⟩⟩).2.2.2 passes.needsAdmin).2
      · rintro keeps ⟨permission, reachable, targeted, cleared⟩
        refine ⟨more.permissions user.username permission, reachable, targeted, fun needs => ?_⟩
        obtain ⟨confirmed, first⟩ := cleared needs
        exact ⟨confirmed, keeps user found
          ⟨permission, reachable, targeted, needs, confirmed⟩ first⟩

end Laws

theorem text_le_trans (s t u : String) (first : s ≤ t) (second : t ≤ u) : s ≤ u :=
  String.le_trans first second

theorem text_le_antisymm (s t : String) (first : s ≤ t) (second : t ≤ s) : s = t :=
  String.le_antisymm first second

def binaryCollation : Collation where
  before s t := s ≤ t
  decidable s t := inferInstanceAs (Decidable (s ≤ t))
  total := String.le_total
  trans := text_le_trans
  antisymm := text_le_antisymm

def sampleAuthEnv : AuthEnv where
  collation := binaryCollation
  verifyPassword password passwordHash _ := password = passwordHash
  authJwtTtlSeconds := 3600

def sampleAuthTables (roles : List String) : AuthTables where
  users := [⟨"chief", "Chief", "secret", "", true⟩]
  userRoles := roles.map fun role => ("chief", role)
  rolePermissions := [("system_admin", "node:view"), ("system_admin", "node:isolate"),
    ("operator", "node:view"), ("viewer", "node:view")]

def sampleSession : LoginSession := ⟨"chief", "secret", 0, 60⟩

def sampleIsolateRequest : UserAction :=
  .safety (.isolateNode "milling-workshop-01" { confirmationCode := "CONFIRM" })

theorem sample_more (role : String) :
    MoreRoles (sampleAuthTables ["system_admin"]) (sampleAuthTables ["system_admin", role]) := by
  refine ⟨rfl, rfl, fun username other member => ?_⟩
  obtain ⟨row, granted, rfl⟩ := List.mem_map.mp member
  obtain ⟨listed, own⟩ := List.mem_filter.mp granted
  have first : row = ("chief", "system_admin") := List.mem_singleton.mp listed
  have kept : row ∈ (sampleAuthTables ["system_admin", role]).userRoles := by
    rw [first]
    exact List.mem_cons_self
  exact List.mem_map_of_mem (List.mem_filter.mpr ⟨kept, own⟩)

/-- An administrator who is made an operator too cannot isolate a node any more. -/
theorem operator_loses_isolation : ¬ ∀ (env : AuthEnv) (tables tables' : AuthTables)
    (deployment : Deployment) (session : LoginSession) (action : UserAction),
    MoreRoles tables tables' → action.runMode ≠ "emergency_containment" →
      allowed env tables deployment session action = true →
        allowed env tables' deployment session action = true := by
  intro h
  have lost := h sampleAuthEnv (sampleAuthTables ["system_admin"])
    (sampleAuthTables ["system_admin", "operator"]) ⟨["milling-workshop-01"], false⟩ sampleSession
    sampleIsolateRequest (sample_more "operator") (by decide) (by decide +kernel)
  exact absurd lost (by decide +kernel)

/-- An administrator who is made a viewer too can still isolate it. -/
theorem viewer_keeps_isolation :
    allowed sampleAuthEnv (sampleAuthTables ["system_admin", "viewer"])
      ⟨["milling-workshop-01"], false⟩ sampleSession sampleIsolateRequest = true := by
  refine (adding_roles_keeps_iff sampleAuthEnv (sampleAuthTables ["system_admin"])
    (sampleAuthTables ["system_admin", "viewer"]) ⟨["milling-workshop-01"], false⟩ sampleSession
    sampleIsolateRequest (sample_more "viewer") (by decide)).mpr ?_ (by decide +kernel)
  rintro user found - -
  cases found
  exact ⟨by decide, by decide +kernel⟩

end MiniOgas
