import MiniOgas.StepSystem
import MiniOgas.Dictionary

namespace MiniOgas

open Steps

inductive PrincipalType where
  | human
  | service
  | node
  | aiAgent
deriving DecidableEq

/-- A row of `principal_credentials`, with the transactions that have inserted it, or revoked it,
and have not committed. -/
structure Credential where
  credentialId : String
  principalId : String
  tokenHash : String
  rotatedFrom : Option String := none
  createdAt : Nat := 0
  revoked : Bool := false
  inserter : Option Nat := none
  revoker : Option Nat := none

/-- A committed row with `revoked_at IS NULL`. -/
def Credential.live (credential : Credential) : Bool :=
  credential.inserter = none && !credential.revoked

structure CredentialIssue where
  principalId : String
  principalType : PrincipalType
  token : String
  credentialId : String

inductive CredentialCall where
  | rotate (issue : CredentialIssue)
  | provision (issue : CredentialIssue)
  | revoke (principalId : String)

def CredentialCall.issue? : CredentialCall → Option CredentialIssue
  | .rotate issue | .provision issue => some issue
  | .revoke _ => none

def CredentialCall.principalId : CredentialCall → String
  | .rotate issue | .provision issue => issue.principalId
  | .revoke principalId => principalId

/-- `NODE_CODE_PATTERN`. -/
def matchesNodeCode (nodeCode : String) : Bool :=
  match nodeCode.toList with
  | [] => false
  | first :: others => first.isAlphanum && 1 ≤ others.length && others.length ≤ 63 &&
    others.all fun c => c.isAlphanum || ['.', '_', '-'].contains c

structure CredentialSecrets where
  token : String
  credential : String

inductive CredentialRequest where
  | rotateNodeCredential (nodeCode : String)
  | rotateServiceCredential (serviceId : String)
  | rotateAiAgentCredential (agentId : String)
  | provisionNodeCredential (nodeCode token : String)
  | revokeNodeCredentials (nodeCode : String)
  | revokePrincipalCredentials (principalId : String)

def CredentialSecrets.rotation (secrets : CredentialSecrets)
    (subject namespaced tokenPrefix : String) (principalType : PrincipalType) :
    Option CredentialCall := do
  guard (matchesNodeCode subject)
  some (.rotate
    { principalId := namespaced ++ subject
      principalType
      token := tokenPrefix ++ secrets.token
      credentialId := "cred_" ++ secrets.credential })

def CredentialRequest.call (secrets : CredentialSecrets) :
    CredentialRequest → Option CredentialCall
  | .rotateNodeCredential nodeCode => secrets.rotation nodeCode "node:" "mogas_node_" .node
  | .rotateServiceCredential serviceId =>
    secrets.rotation serviceId "service:" "mogas_service_" .service
  | .rotateAiAgentCredential agentId => secrets.rotation agentId "ai:" "mogas_ai_" .aiAgent
  | .provisionNodeCredential nodeCode token => do
    guard (32 ≤ token.length)
    guard (matchesNodeCode nodeCode)
    some (.provision
      { principalId := "node:" ++ nodeCode
        principalType := .node
        token
        credentialId := "cred_" ++ secrets.credential })
  | .revokeNodeCredentials nodeCode => some (.revoke ("node:" ++ nodeCode))
  | .revokePrincipalCredentials principalId => some (.revoke principalId)

/-- The statement that a transaction runs next. An `UPDATE` has the rows of its snapshot, and those
of them that it has not reached. -/
inductive CredentialPhase where
  | ensuring
  | reading
  | revoking (previous : Option String)
  | writing (previous : Option String) (seen rest : List String)
  | inserted (seen : List String)
  | found

def CredentialPhase.seen : CredentialPhase → List String
  | .writing _ seen _ | .inserted seen => seen
  | .ensuring | .reading | .revoking _ | .found => []

def CredentialPhase.rest : CredentialPhase → List String
  | .writing _ _ rest => rest
  | .ensuring | .reading | .revoking _ | .inserted _ | .found => []

structure CredentialSession where
  call : CredentialCall
  startedAt : Nat
  phase : CredentialPhase

structure CredentialSystem where
  principals : Dictionary String PrincipalType := .empty
  credentials : List Credential := []
  sessions : Dictionary Nat CredentialSession := .empty

/-- `start` calls an entry point, `statement` runs the next statement, `lock` is an `UPDATE` at one
row of its snapshot, and `fail` is an error or a lost connection. -/
inductive CredentialEvent where
  | start (id : Nat) (request : CredentialRequest) (secrets : CredentialSecrets) (now : Nat)
  | statement (id : Nat)
  | lock (id : Nat) (credentialId : String)
  | commit (id : Nat)
  | fail (id : Nat)

namespace CredentialSystem

variable (hash : String → String) (system : CredentialSystem)

def liveCredentials (principalId : String) : List Credential :=
  system.credentials.filter fun row => row.live && row.principalId = principalId

/-- `ORDER BY created_at DESC LIMIT 1`. -/
def previous (principalId : String) : Option String :=
  ((system.liveCredentials principalId).foldl (fun (latest : Option Credential) row =>
    match latest with
    | some last => if last.createdAt < row.createdAt then some row else latest
    | none => some row) none).map (·.credentialId)

def goOn (id : Nat) (session : CredentialSession) (phase : CredentialPhase) : CredentialSystem :=
  { system with sessions := system.sessions.set id { session with phase } }

def commitRow (id : Nat) (row : Credential) : Credential :=
  { row with
    inserter := if row.inserter = some id then none else row.inserter
    revoked := row.revoked || row.revoker = some id
    revoker := if row.revoker = some id then none else row.revoker }

/-- The row after an `UPDATE` has written the row of a key. -/
def markRow (id : Nat) (credentialId : String) (row : Credential) : Credential :=
  if row.credentialId = credentialId then { row with revoker := some id } else row

def rollbackRow (id : Nat) (row : Credential) : Credential :=
  { row with revoker := if row.revoker = some id then none else row.revoker }

def committed (id : Nat) : CredentialSystem :=
  { system with
    credentials := system.credentials.map (commitRow id)
    sessions := system.sessions.pop id }

def rolledBack (id : Nat) : CredentialSystem :=
  { system with
    credentials := (system.credentials.filter (·.inserter ≠ some id)).map (rollbackRow id)
    sessions := system.sessions.pop id }

def clashing (issue : CredentialIssue) : List Credential :=
  system.credentials.filter fun row =>
    row.credentialId = issue.credentialId || row.tokenHash = hash issue.token

/-- The `INSERT`: it waits for a row that clashes and is not committed, and fails on one that is. -/
def insert (id : Nat) (session : CredentialSession) (issue : CredentialIssue)
    (previous : Option String) (seen : List String) : CredentialSystem :=
  if (system.clashing hash issue).any (·.inserter.isSome) then system
  else if system.clashing hash issue ≠ [] then system.rolledBack id
  else
    { system with
      credentials := system.credentials ++ [{
        credentialId := issue.credentialId
        principalId := issue.principalId
        tokenHash := hash issue.token
        rotatedFrom := previous
        createdAt := session.startedAt
        inserter := some id }]
      sessions := system.sessions.set id { session with phase := .inserted seen } }

/-- The next statement of a transaction. -/
def statement (id : Nat) (session : CredentialSession) : CredentialSystem :=
  match session.phase, session.call.issue? with
  | .ensuring, some issue =>
    { system.goOn id session .reading with
      principals := system.principals.setDefault issue.principalId issue.principalType }
  | .reading, some issue =>
    match session.call with
    | .rotate _ => system.goOn id session (.revoking (system.previous issue.principalId))
    | .provision _ | .revoke _ =>
      if system.credentials.any (fun row => row.inserter = none &&
          row.principalId = issue.principalId) then system.goOn id session .found
      else system.goOn id session (.writing none [] [])
  | .revoking previous, _ =>
    let seen := (system.liveCredentials session.call.principalId).map (·.credentialId)
    system.goOn id session (.writing previous seen seen)
  | .writing previous seen [], some issue => system.insert hash id session issue previous seen
  | _, _ => system

/-- An `UPDATE` at a row: it waits for the transaction that has written the row, and leaves the row
alone when it is revoked by then. -/
def lock (id : Nat) (session : CredentialSession) (credentialId : String) : CredentialSystem :=
  match session.phase with
  | .writing previous seen rest =>
    if credentialId ∈ rest then
      match system.credentials.find? (·.credentialId = credentialId) with
      | none => system
      | some row =>
        let later := system.goOn id session
          (.writing previous seen (rest.filter (· ≠ credentialId)))
        if row.revoker.isSome then system
        else if row.revoked then later
        else
          { later with
            credentials := system.credentials.map (markRow id credentialId) }
    else system
  | _ => system

def finished (session : CredentialSession) : Bool :=
  match session.phase with
  | .inserted _ | .found => true
  | .writing _ _ [] => session.call.issue?.isNone
  | _ => false

def step (system : CredentialSystem) : CredentialEvent → CredentialSystem
  | .start id request secrets now =>
    match request.call secrets, system.sessions.get? id with
    | some call, none =>
      { system with
        sessions := system.sessions.set id
          ⟨call, now, if call.issue?.isSome then .ensuring else .revoking none⟩ }
    | _, _ => system
  | .statement id =>
    match system.sessions.get? id with
    | some session => system.statement hash id session
    | none => system
  | .lock id credentialId =>
    match system.sessions.get? id with
    | some session => system.lock id session credentialId
    | none => system
  | .commit id =>
    match system.sessions.get? id with
    | some session => if finished session then system.committed id else system
    | none => system
  | .fail id => if (system.sessions.get? id).isSome then system.rolledBack id else system

/-- `_authenticate_credential`: the principal and the credential. -/
def authenticateCredential (token : String) (allowedTypes : List PrincipalType) :
    Option (String × String) := do
  guard (token ≠ "")
  let row ← system.credentials.find? fun row => row.tokenHash = hash token && row.live &&
    (system.principals.get? row.principalId).isSome
  let principalType ← system.principals.get? row.principalId
  guard (principalType ∈ allowedTypes)
  some (row.principalId, row.credentialId)

end CredentialSystem

end MiniOgas
