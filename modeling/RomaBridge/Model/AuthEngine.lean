import RomaBridge.Model.PyValues

/-! `auth/engine.py`: keys that are found by the digest of their secret, and signed requests. What
nothing reads of a tenant is left out.
-/

namespace RomaBridge.Model.Auth

def isHexDigit (c : Char) : Bool := c.isDigit || ('a' ≤ c && c ≤ 'f')

structure HexDigest where
  text : String
  nonempty : text ≠ ""
  hex : text.toList.all isHexDigit = true
  deriving DecidableEq

inductive KeyType where
  | server
  | user
  | webhook
  deriving DecidableEq, Repr

inductive KeyStatus where
  | active
  | expired
  | revoked
  | pending
  deriving DecidableEq, Repr

/-- `APIKey`. Dates are in seconds. -/
structure APIKey where
  keyId : String
  tenantId : String
  projectId : String
  keyType : KeyType
  keyPrefix : String
  keyHash : String
  status : KeyStatus
  createdAt : ℚ
  expiresAt : Option PyFloat
  lastUsedAt : Option ℚ
  scopes : List String
  description : String
  deriving DecidableEq

/-- `AuthEngine`: its dictionaries. -/
structure AuthEngine where
  keys : String → Option APIKey := fun _ => none
  keyIndex : String → Option String := fun _ => none
  hmacSecrets : String → Option String := fun _ => none

structure KeyRequest where
  tenantId : String
  projectId : String
  keyType : KeyType
  description : String
  expiresAt : Option PyFloat
  scopes : List String
  deriving DecidableEq

/-- What the random sources give for a new key: `uuid.uuid4().hex[:16]` and
`secrets.token_bytes(24).hex()`.
-/
structure KeyDraw where
  uuidHex : String
  tokenHex : String
  length : tokenHex.toList.length = 48

def KeyDraw.keyId (draw : KeyDraw) : String := "roma_" ++ draw.uuidHex

def KeyDraw.fullSecret (draw : KeyDraw) : String := "sk_" ++ draw.tokenHex

/-- `full_secret[:8]`. -/
def secretPrefix (fullSecret : String) : String := String.ofList (fullSecret.toList.take 8)

/-- `time.time() > value`. -/
def isPast (now : ℚ) : PyFloat → Bool
  | .finite value => value < now
  | .nan => false
  | .inf negative => negative

/-- `key.expires_at and time.time() > key.expires_at`: an expiry of zero is taken for none. -/
def isExpired (now : ℚ) : Option PyFloat → Bool
  | none => false
  | some expiresAt => !expiresAt.isZero && isPast now expiresAt

/-- `scopes or [...]`. -/
def scopesOr (scopes : List String) : List String :=
  if scopes.isEmpty then ["submit", "status", "cancel"] else scopes

namespace AuthEngine

section Keys

variable (sha256 : String → HexDigest)

/-- The entry of `key_index` for a secret. -/
def indexKey (fullSecret : String) : String :=
  secretPrefix fullSecret ++ ":" ++ (sha256 fullSecret).text

/-- The key that `create_key` stores. -/
def newKey (request : KeyRequest) (draw : KeyDraw) (now : ℚ) : APIKey :=
  { keyId := draw.keyId
    tenantId := request.tenantId
    projectId := request.projectId
    keyType := request.keyType
    keyPrefix := secretPrefix draw.fullSecret
    keyHash := (sha256 draw.fullSecret).text
    status := .active
    createdAt := now
    expiresAt := request.expiresAt
    lastUsedAt := none
    scopes := scopesOr request.scopes
    description := request.description }

def createKey (engine : AuthEngine) (request : KeyRequest) (draw : KeyDraw) (now : ℚ)
    : (String × String) × AuthEngine :=
  ((draw.keyId, draw.fullSecret),
    { engine with
      keys := Function.update engine.keys draw.keyId (some (newKey sha256 request draw now))
      keyIndex := Function.update engine.keyIndex (indexKey sha256 draw.fullSecret)
        (some draw.keyId) })

def writeKey (engine : AuthEngine) (keyId : String) (key : APIKey) : AuthEngine :=
  { engine with keys := Function.update engine.keys keyId (some key) }

/-- `validate_key`; an error is a `KeyError`. -/
def validateKey (engine : AuthEngine) (fullSecret : String) (now : ℚ)
    : Except Unit (Option APIKey) × AuthEngine :=
  if fullSecret.toList.length < 16 then
    (.ok none, engine)
  else
    match engine.keyIndex (indexKey sha256 fullSecret) with
    | none => (.ok none, engine)
    | some keyId =>
        if keyId = "" then
          (.ok none, engine)
        else
          match engine.keys keyId with
          | none => (.error (), engine)
          | some key =>
              if key.status ≠ .active then
                (.ok none, engine)
              else if isExpired now key.expiresAt then
                (.ok none, engine.writeKey keyId { key with status := .expired })
              else
                let used := { key with lastUsedAt := some now }
                (.ok (some used), engine.writeKey keyId used)

def revokeKey (engine : AuthEngine) (keyId : String) : Bool × AuthEngine :=
  match engine.keys keyId with
  | none => (false, engine)
  | some key => (true, engine.writeKey keyId { key with status := .revoked })

def requestOf (key : APIKey) : KeyRequest :=
  ⟨key.tenantId, key.projectId, key.keyType, key.description, key.expiresAt, key.scopes⟩

/-- `rotate_key`; an error is a `KeyError`. -/
def rotateKey (engine : AuthEngine) (keyId : String) (draw : KeyDraw) (now : ℚ)
    : Except Unit (String × String) × AuthEngine :=
  match engine.keys keyId with
  | none => (.error (), engine)
  | some old =>
      let (created, next) := (engine.revokeKey keyId).2.createKey sha256 (requestOf old) draw now
      (.ok created, next)

end Keys

/-- `create_tenant`, as far as signing sees it. -/
def createTenant (engine : AuthEngine) (tenantId : String) (hmacSecret : Option String)
    : AuthEngine :=
  match hmacSecret with
  | none => engine
  | some secret =>
      if secret = "" then engine
      else { engine with
        hmacSecrets := Function.update engine.hmacSecrets tenantId (some secret) }

/-- `create_hmac_secret`, with what `secrets.token_hex(16)` gives. -/
def createHmacSecret (engine : AuthEngine) (tenantId tokenHex : String) : AuthEngine :=
  { engine with hmacSecrets := Function.update engine.hmacSecrets tenantId (some tokenHex) }

end AuthEngine

structure SignedRequest where
  method : String
  path : String
  body : String
  timestamp : PyFloat
  deriving DecidableEq

/-- `abs(time.time() - timestamp) > 300`. -/
def tooOld (now : ℚ) : PyFloat → Bool
  | .finite timestamp => 300 < |now - timestamp|
  | .nan => false
  | .inf _ => true

namespace AuthEngine

section Signing

variable (floatText : PyFloat → String) (hmacSha256 : String → String → HexDigest)

/-- `f"{method}:{path}:{body}:{timestamp}"`. -/
def message (request : SignedRequest) : String :=
  request.method ++ ":" ++ request.path ++ ":" ++ request.body ++ ":" ++ floatText request.timestamp

def signRequest (engine : AuthEngine) (tenantId : String) (request : SignedRequest) : String :=
  match engine.hmacSecrets tenantId with
  | none => ""
  | some secret =>
      if secret = "" then "" else (hmacSha256 secret (message floatText request)).text

/-- `hmac.compare_digest`; `none` is the `TypeError` of a text that is not ASCII. -/
def compareDigest (expected signature : String) : Option Bool :=
  if expected.toList.all (fun c => c.toNat < 128) && signature.toList.all (fun c => c.toNat < 128)
  then some (expected = signature)
  else none

def verifySignature (engine : AuthEngine) (tenantId : String) (request : SignedRequest)
    (signature : String) (now : ℚ)
    : Option Bool :=
  if tooOld now request.timestamp then some false
  else compareDigest (engine.signRequest floatText hmacSha256 tenantId request) signature

end Signing

end AuthEngine

end RomaBridge.Model.Auth
