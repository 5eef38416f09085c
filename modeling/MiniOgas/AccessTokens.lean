import MiniOgas.Base64Url
import MiniOgas.JsonText

namespace MiniOgas

namespace TokenCodec

open Serial

/-- What `decode_access_token` can raise inside its `try`. -/
inductive TokenFault where
  | valueError
  | typeError
  | attributeError

def TokenFault.caught : TokenFault → Bool
  | .valueError | .typeError => true
  | .attributeError => false

/-- The `user` of `issue_access_token`, the last three fields of which can be absent. -/
structure TokenUser where
  username : String
  displayName : String
  roles : List String
  permissions : List String
  principalId : Option String := none
  principalType : Option String := none
  nodeCode : Option String := none

structure TokenSettings where
  authJwtSecret : String
  authJwtTtlSeconds : Int
  hmacSha256 : String → String → List UInt8
  format : FloatFormat
  builtins : Builtins
  ensureAscii : format.ensureAscii = true
  int_int : ∀ n, builtins.int (.int n) = some n

section Tokens

variable (settings : TokenSettings)

def textList (items : List String) : Json := .arr (items.map Json.str)

def tokenHeader : Fields := [("alg", .str "HS256"), ("typ", .str "JWT")]

def accessPayload (user : TokenUser) (now : Int) (jti : String) : Fields :=
  [("iss", .str "mini-ogas-central-api"), ("sub", .str user.username),
    ("name", .str user.displayName), ("roles", textList user.roles),
    ("permissions", textList user.permissions), ("iat", .int now),
    ("exp", .int (now + settings.authJwtTtlSeconds)), ("jti", .str jti),
    ("principal_id", .str (user.principalId.getD ("user:" ++ user.username))),
    ("principal_type", .str (user.principalType.getD "human")),
    ("node_code", .str (user.nodeCode.getD ""))]

/-- `_b64encode(_json_bytes(value))`. -/
def encodeFields (value : Fields) : List Char :=
  Base64Url.encode (dumpJson settings.format (.obj value)).toUTF8.data.toList

def joinDot (first second : List Char) : List Char := first ++ '.' :: second

def signingInput (user : TokenUser) (now : Int) (jti : String) : List Char :=
  joinDot (encodeFields settings tokenHeader)
    (encodeFields settings (accessPayload settings user now jti))

def signature (input : List Char) : List UInt8 :=
  settings.hmacSha256 settings.authJwtSecret (String.ofList input)

def issueAccessToken (user : TokenUser) (now : Int) (jti : String) : String :=
  let input := signingInput settings user now jti
  String.ofList (joinDot input (Base64Url.encode (signature settings input)))

def isAscii (cs : List Char) : Bool := cs.all fun c => c.toNat < 128

def b64Decode (value : List Char) : Except TokenFault (List UInt8) := do
  check (isAscii value = true) .valueError
  orFault (Base64Url.decode value) .valueError

/-- `json.loads` of bytes in UTF-8. -/
def loadBytes (bytes : List UInt8) : Except TokenFault Json :=
  orFault ((String.fromUTF8? ⟨bytes.toArray⟩).bind (loadJson settings.format)) .valueError

/-- The `get` of a value, which only a `dict` has. -/
def getter : Json → Except TokenFault Fields
  | .obj fields => .ok fields
  | _ => .error .attributeError

def isList : Json → Bool
  | .arr _ => true
  | _ => false

/-- The `try` of `decode_access_token`. -/
def readAccessToken (token : String) (now : Int) : Except TokenFault (Option Json) :=
  match token.toList.splitOn '.' with
  | [headerRaw, payloadRaw, signatureRaw] => do
    check (isAscii (joinDot headerRaw payloadRaw) = true) .valueError
    let given ← b64Decode signatureRaw
    if signature settings (joinDot headerRaw payloadRaw) ≠ given then return none
    let header ← loadBytes settings (← b64Decode headerRaw)
    let payload ← loadBytes settings (← b64Decode payloadRaw)
    if !((← getter header).get "alg").isText "HS256" then return none
    let fields ← getter payload
    if !(fields.get "iss").isText "mini-ogas-central-api" then return none
    let expires ← orFault (settings.builtins.int
      (((fields.find? (·.1 = "exp")).map (·.2)).getD (.int 0))) .typeError
    if expires ≤ now then return none
    if !isList (fields.get "permissions") || !isList (fields.get "roles") then return none
    return some payload
  | _ => .error .valueError

def decodeAccessToken (token : String) (now : Int) : Except TokenFault (Option Json) :=
  match readAccessToken settings token now with
  | .ok payload => .ok payload
  | .error fault => if fault.caught = true then .ok none else .error fault

/-- The third part of the string decodes to the HMAC of the first two. -/
def Signed (token : String) (headerRaw payloadRaw signatureRaw : List Char) : Prop :=
  token.toList.splitOn '.' = [headerRaw, payloadRaw, signatureRaw] ∧
    b64Decode signatureRaw = .ok (signature settings (joinDot headerRaw payloadRaw))

/-- No one evaluates the HMAC but `issue_access_token`. -/
def Unforged (token : String) : Prop :=
  ∀ headerRaw payloadRaw signatureRaw, Signed settings token headerRaw payloadRaw signatureRaw →
    ∃ user now jti, joinDot headerRaw payloadRaw = signingInput settings user now jti

end Tokens

variable {settings : TokenSettings} {user : TokenUser} {issued now : Int} {jti token : String}
  {cs : List Char} {bytes : List UInt8} {signatureRaw : List Char}

theorem b64Decode_encode (bytes : List UInt8) :
    b64Decode (Base64Url.encode bytes) = .ok bytes := by
  have ascii : isAscii (Base64Url.encode bytes) = true :=
    List.all_eq_true.mpr fun c member => decide_eq_true (Base64Url.ascii_encode bytes c member)
  rw [b64Decode, check, if_pos ascii, Base64Url.decode_encode]
  rfl

theorem b64Decode_error {fault : TokenFault} (refused : b64Decode cs = .error fault) :
    fault = .valueError := by
  cases ascii : isAscii cs <;> cases read : Base64Url.decode cs <;>
    simp [b64Decode, check, orFault, ascii, read, bind, Except.bind] at refused
  all_goals exact refused.symm

theorem loadBytes_dumpJson {value : Json} (plain : value.plain = true) :
    loadBytes settings (dumpJson settings.format value).toUTF8.data.toList = .ok value.sorted := by
  have bytes : String.fromUTF8? ⟨(dumpJson settings.format value).toUTF8.data.toList.toArray⟩ =
      some (dumpJson settings.format value) := by
    have valid : (dumpJson settings.format value).toUTF8.IsValidUTF8 :=
      (dumpJson settings.format value).isValidUTF8
    exact dif_pos valid
  rw [loadBytes, bytes, Option.bind_some, loadJson_dumpJson settings.format plain]
  rfl

theorem readAccessToken_issued
    (signed : Signed settings token (encodeFields settings tokenHeader)
      (encodeFields settings (accessPayload settings user issued jti)) signatureRaw) :
    readAccessToken settings token now =
      .ok (if now < issued + settings.authJwtTtlSeconds then
        some (.obj ((accessPayload settings user issued jti).insertionSort keyBefore))
      else none) := by
  obtain ⟨split, valid⟩ := signed
  have plainList : ∀ items : List String, (textList items).plain = true := by
    intro items
    rw [textList, Json.plain, plainItems_iff]
    intro item member
    obtain ⟨text, -, rfl⟩ := List.mem_map.mp member
    rfl
  have sortedList : ∀ items : List String, (textList items).sorted = textList items := by
    intro items
    rw [textList, Json.sorted, sortedItems_eq, List.map_map]
    rfl
  have fields : sortedFields (accessPayload settings user issued jti) =
      accessPayload settings user issued jti := by
    simp [accessPayload, sortedFields, sortedList, Json.sorted]
  have plain : (Json.obj (accessPayload settings user issued jti)).plain = true := by
    simp [accessPayload, Json.plain, plainFields, plainList]
  have get : ∀ key, Fields.get ((accessPayload settings user issued jti).insertionSort keyBefore)
      key = (accessPayload settings user issued jti).get key := by
    intro key
    rw [Fields.get, find?_insertionSort, Fields.get]
  have ascii : isAscii (joinDot (encodeFields settings tokenHeader)
      (encodeFields settings (accessPayload settings user issued jti))) = true := by
    refine List.all_eq_true.mpr fun c member => decide_eq_true ?_
    rcases List.mem_append.mp member with first | rest
    · exact Base64Url.ascii_encode _ c first
    · rcases List.mem_cons.mp rest with rfl | second
      · decide
      · exact Base64Url.ascii_encode _ c second
  have exp : (((accessPayload settings user issued jti).insertionSort keyBefore).find?
      (·.1 = "exp")).map (·.2) = some (.int (issued + settings.authJwtTtlSeconds)) := by
    rw [find?_insertionSort]
    rfl
  have header : loadBytes settings
      (dumpJson settings.format (.obj tokenHeader)).toUTF8.data.toList = .ok (.obj tokenHeader) :=
    loadBytes_dumpJson rfl
  have payload : loadBytes settings (dumpJson settings.format
      (.obj (accessPayload settings user issued jti))).toUTF8.data.toList =
      .ok (.obj ((accessPayload settings user issued jti).insertionSort keyBefore)) := by
    rw [loadBytes_dumpJson plain, Json.sorted, fields]
  unfold readAccessToken
  rw [split]
  dsimp only
  rw [check, if_pos ascii, valid]
  simp only [encodeFields, b64Decode_encode, bind, Except.bind, pure, Except.pure, header, payload,
    getter, get, exp]
  have issuer : ((accessPayload settings user issued jti).get "iss").isText
      "mini-ogas-central-api" = true := rfl
  have lists : (!isList ((accessPayload settings user issued jti).get "permissions") ||
      !isList ((accessPayload settings user issued jti).get "roles")) = false := rfl
  rw [if_neg (not_not.mpr rfl), if_neg (by decide), issuer, if_neg (by decide), Option.getD_some,
    settings.int_int, lists, if_neg (by decide)]
  dsimp only [orFault]
  by_cases expired : issued + settings.authJwtTtlSeconds ≤ now
  · rw [if_pos expired, if_neg (not_lt.mpr expired)]
  · rw [if_neg expired, if_pos (not_le.mp expired)]

theorem splitOn_joinDot_signingInput (rest : List Char) :
    (joinDot (signingInput settings user issued jti) rest).splitOn '.' =
      encodeFields settings tokenHeader ::
        encodeFields settings (accessPayload settings user issued jti) :: rest.splitOn '.' := by
  have noDot : ∀ fields, '.' ∉ encodeFields settings fields :=
    fun fields => Base64Url.dot_not_mem_encode _
  unfold signingInput joinDot
  rw [List.append_assoc, List.cons_append,
    List.splitOn_append_cons_self_of_not_mem (noDot tokenHeader),
    List.splitOn_append_cons_self_of_not_mem (noDot _)]

theorem signed_issueAccessToken : Signed settings (issueAccessToken settings user issued jti)
    (encodeFields settings tokenHeader)
    (encodeFields settings (accessPayload settings user issued jti))
    (Base64Url.encode (signature settings (signingInput settings user issued jti))) := by
  refine ⟨?_, b64Decode_encode _⟩
  rw [issueAccessToken, String.toList_ofList, splitOn_joinDot_signingInput,
    List.splitOn_eq_singleton (Base64Url.dot_not_mem_encode _)]

theorem decode_issued
    (signed : Signed settings token (encodeFields settings tokenHeader)
      (encodeFields settings (accessPayload settings user issued jti)) signatureRaw) :
    decodeAccessToken settings token now =
      .ok (if now < issued + settings.authJwtTtlSeconds then
        some (.obj ((accessPayload settings user issued jti).insertionSort keyBefore))
      else none) := by
  rw [decodeAccessToken, readAccessToken_issued signed]

theorem parts_of_signingInput {headerRaw payloadRaw : List Char}
    (split : token.toList.splitOn '.' = [headerRaw, payloadRaw, signatureRaw])
    (same : joinDot headerRaw payloadRaw = signingInput settings user issued jti) :
    headerRaw = encodeFields settings tokenHeader ∧
      payloadRaw = encodeFields settings (accessPayload settings user issued jti) := by
  have joined : joinDot (joinDot headerRaw payloadRaw) signatureRaw = token.toList := by
    have whole : ['.'].intercalate (token.toList.splitOn '.') = token.toList :=
      List.intercalate_splitOn '.'
    rw [split] at whole
    simpa [joinDot, List.intercalate] using whole
  rw [same] at joined
  rw [← joined, splitOn_joinDot_signingInput] at split
  simp only [List.cons.injEq] at split
  exact ⟨split.1.symm, split.2.1.symm⟩

theorem decode_unsigned (unsigned : ¬ ∃ headerRaw payloadRaw signatureRaw,
      Signed settings token headerRaw payloadRaw signatureRaw) :
    decodeAccessToken settings token now = .ok none := by
  have read : readAccessToken settings token now = .ok none ∨
      readAccessToken settings token now = .error .valueError := by
    unfold readAccessToken
    split
    next headerRaw payloadRaw signatureRaw split =>
      cases ascii : isAscii (joinDot headerRaw payloadRaw) with
      | false => exact .inr rfl
      | true =>
        cases given : b64Decode signatureRaw with
        | error fault =>
          cases b64Decode_error given
          exact .inr rfl
        | ok bytes =>
          have forged : signature settings (joinDot headerRaw payloadRaw) ≠ bytes := fun same =>
            unsigned ⟨headerRaw, payloadRaw, signatureRaw, split, same ▸ given⟩
          exact .inl (if_pos forged)
    next => exact .inr rfl
  unfold decodeAccessToken
  rcases read with read | read <;> rw [read]
  rfl

/-- An issued token is decoded to its payload, with the keys in order, until it expires. A string
is decoded only if it is signed, and with no exception if only `issue_access_token` signs. -/
theorem access_token_decodes (settings : TokenSettings) (now : Int) :
    (∀ user issued jti,
      decodeAccessToken settings (issueAccessToken settings user issued jti) now =
        .ok (if now < issued + settings.authJwtTtlSeconds then
          some (.obj ((accessPayload settings user issued jti).insertionSort keyBefore))
        else none)) ∧
    (∀ token payload, decodeAccessToken settings token now = .ok (some payload) →
      ∃ headerRaw payloadRaw signatureRaw,
        Signed settings token headerRaw payloadRaw signatureRaw) ∧
    ∀ token, Unforged settings token →
      ∃ payload, decodeAccessToken settings token now = .ok payload := by
  refine ⟨fun _ _ _ => decode_issued signed_issueAccessToken, fun token payload decoded => ?_,
    fun token unforged => ?_⟩
  · by_contra unsigned
    rw [decode_unsigned unsigned] at decoded
    cases decoded
  · by_cases signed : ∃ headerRaw payloadRaw signatureRaw,
        Signed settings token headerRaw payloadRaw signatureRaw
    · obtain ⟨headerRaw, payloadRaw, signatureRaw, valid⟩ := signed
      obtain ⟨user, issued, jti, same⟩ := unforged _ _ _ valid
      obtain ⟨header, payload⟩ := parts_of_signingInput valid.1 same
      rw [header, payload] at valid
      exact ⟨_, decode_issued valid⟩
    · exact ⟨none, decode_unsigned signed⟩

theorem unforged_issueAccessToken :
    Unforged settings (issueAccessToken settings user issued jti) := by
  intro headerRaw payloadRaw signatureRaw signed
  obtain ⟨header, rest⟩ := List.cons.inj (signed.1.symm.trans signed_issueAccessToken.1)
  exact ⟨user, issued, jti, by rw [header, (List.cons.inj rest).1, signingInput]⟩

/-- A code that tells every key and every message apart. -/
def sampleTokenSettings : TokenSettings where
  authJwtSecret := "secret"
  authJwtTtlSeconds := 3600
  hmacSha256 := fun secret message => secret.toUTF8.data.toList ++ message.toUTF8.data.toList
  format := { sampleFormat with ensureAscii := true }
  builtins := sampleBuiltins
  ensureAscii := rfl
  int_int := fun _ => rfl

def sampleTokenUser : TokenUser where
  username := "operator"
  displayName := "Operator"
  roles := ["operator"]
  permissions := ["orders:write"]

/-- An issued token has three parts, and no one else has signed it. -/
theorem access_token_decodes_issued :
    ∃ payload, decodeAccessToken sampleTokenSettings
      (issueAccessToken sampleTokenSettings sampleTokenUser 0 "jti") 60 = .ok payload :=
  (access_token_decodes sampleTokenSettings 60).2.2 _ unforged_issueAccessToken

end TokenCodec

end MiniOgas
