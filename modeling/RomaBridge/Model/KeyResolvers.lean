import RomaBridge.Model.PyValues

/-! The resolvers of `X-API-Key`: `deps.verify_api_key` and `deps.lookup_key`, and
`_tenant_from_key` of `router_jobs.py` and of `router_decisions.py`. `sha256` is the hex digest of a
text.
-/

namespace RomaBridge.Model.Keys

open RomaBridge.Model (pyStrip)

/-- The columns of `tenants` that the resolvers read. -/
structure TenantRow where
  id : String
  apiKeyHash : Option String
  name : String
  plan : String
  deriving DecidableEq, Repr

/-- The columns of `users` that the resolvers and a rotation use. -/
structure UserRow where
  id : String
  apiKey : String
  apiKeyHash : Option String
  emailVerified : Bool
  deriving DecidableEq, Repr

/-- A value of `API_KEYS`. -/
structure KeyInfo where
  tenantId : Option String
  plan : Option String
  deriving DecidableEq, Repr

/-- The tables, in the order in which rows are fetched, and what the process holds: `API_KEYS` by
digest, `ROMA_ADMIN_KEYS` and `PUBLIC_BASE_URL`. Ids are primary keys.
-/
structure KeyStore where
  tenants : List TenantRow
  distinct : (tenants.map TenantRow.id).Nodup
  users : List UserRow
  distinctUsers : (users.map UserRow.id).Nodup
  apiKeys : String → Option KeyInfo
  adminKeys : List String
  publicBaseUrl : String

/-- `HTTPException`. -/
structure HttpError where
  statusCode : ℕ
  detail : String
  deriving DecidableEq, Repr

/-- The tenant of a key, with the key when `verify_api_key` adds it. -/
structure TenantInfo where
  tenantId : String
  name : String
  plan : String
  apiKey : Option String
  deriving DecidableEq, Repr

/-- `db.get_tenant`. -/
def getTenant (store : KeyStore) (tenantId : String) : Option TenantRow :=
  store.tenants.find? (fun row => row.id == tenantId)

variable (sha256 : String → String)

/-- The row that `find_tenant_by_key` fetches. -/
def rowOfKey (store : KeyStore) (apiKey : String) : Option TenantRow :=
  store.tenants.find? (fun row => row.apiKeyHash == some (sha256 apiKey))

def findTenantByKey (store : KeyStore) (apiKey : String) : Option TenantInfo :=
  (rowOfKey sha256 store apiKey).map (fun row => ⟨row.id, row.name, row.plan, none⟩)

def findUserByApiKey (store : KeyStore) (apiKey : String) : Option UserRow :=
  if apiKey = "" then none
  else store.users.find? (fun row => row.apiKeyHash == some (sha256 apiKey))

def isEmailVerified (store : KeyStore) (apiKey : String) : Bool :=
  match findUserByApiKey sha256 store apiKey with
  | none => false
  | some user => user.emailVerified

def adminKeyValid (store : KeyStore) (candidate : String) : Bool :=
  candidate != "" && store.adminKeys.contains candidate

/-- `deps.lookup_key`. -/
def lookupKey (store : KeyStore) (rawKey : Option String) : Option KeyInfo :=
  match rawKey with
  | none => none
  | some rawKey =>
      if rawKey = "" then none
      else match findTenantByKey sha256 store rawKey with
        | some tenant => some ⟨some tenant.tenantId, some tenant.plan⟩
        | none =>
            match store.apiKeys (sha256 rawKey) with
            | none => none
            | some registered =>
                match registered.tenantId with
                | none => some registered
                | some tenantId =>
                    if tenantId = "" || (getTenant store tenantId).isNone then some registered
                    else none

/-- `deps.verify_api_key`. -/
def verifyApiKey (store : KeyStore) (xApiKey : Option String) : Except HttpError TenantInfo :=
  match xApiKey with
  | none =>
      .error ⟨401, "Missing X-API-Key header. Request a key at " ++ store.publicBaseUrl⟩
  | some xApiKey =>
      if xApiKey = "" then
        .error ⟨401, "Missing X-API-Key header. Request a key at " ++ store.publicBaseUrl⟩
      else match findTenantByKey sha256 store xApiKey with
        | none => .error ⟨401, "Invalid API key"⟩
        | some tenant =>
            if pyStrip tenant.tenantId = "" then .error ⟨401, "Invalid API key"⟩
            else if adminKeyValid store xApiKey || isEmailVerified sha256 store xApiKey then
              .ok { tenant with tenantId := pyStrip tenant.tenantId, apiKey := some xApiKey }
            else .error ⟨403, "Email not verified. Please verify your email first."⟩

namespace RouterJobs

/-- `router_jobs._tenant_from_key`. -/
def tenantFromKey (store : KeyStore) (xApiKey : Option String) : Except HttpError String :=
  match xApiKey with
  | none => .error ⟨401, "Missing X-API-Key"⟩
  | some xApiKey =>
      if xApiKey = "" then .error ⟨401, "Missing X-API-Key"⟩
      else match findTenantByKey sha256 store xApiKey with
        | none => .error ⟨401, "Invalid API key"⟩
        | some tenant => .ok tenant.tenantId

end RouterJobs

namespace RouterDecisions

/-- The tenant id that `router_decisions._tenant_from_key` makes of a key. -/
def derivedTenantId (xApiKey : String) : String :=
  if 20 < xApiKey.length then xApiKey
  else "tenant-" ++ String.ofList (xApiKey.toList.take 12)

/-- `router_decisions._tenant_from_key`. -/
def tenantFromKey (store : KeyStore) (xApiKey : Option String) : Except HttpError String :=
  match xApiKey with
  | none => .error ⟨401, "Missing X-API-Key"⟩
  | some xApiKey =>
      if xApiKey = "" then .error ⟨401, "Missing X-API-Key"⟩
      else match getTenant store xApiKey with
        | some tenant => .ok tenant.id
        | none =>
            if (getTenant store (derivedTenantId xApiKey)).isNone then
              .error ⟨401, "Invalid API key"⟩
            else .ok (derivedTenantId xApiKey)

end RouterDecisions

end RomaBridge.Model.Keys

/-! Rotation of a tenant's key: `rotate_user_api_key` of `db_adapter.py` on both backends, and the
registry's switch-over in `routers/account.py`. The statements of a rotation are one transaction;
each of them may raise.
-/

namespace RomaBridge.Model.Keys

/-- The backend that is enabled. -/
inductive Backend where
  | postgres
  | sqlite
  deriving DecidableEq, Repr

/-- Where a rotation raises. With `commitLost` the commit took effect and its answer was lost. -/
inductive RotationFault where
  | none
  | select
  | updateUsers
  | updateTenants
  | commit
  | commitLost
  deriving DecidableEq, Repr

inductive RotationError where
  | database
  | emptyKey
  | uniqueViolation
  | counts (users tenants : ℕ)
  deriving DecidableEq, Repr

structure RotationResult where
  usersCount : ℕ
  tenantsCount : ℕ
  oldApiKeyHash : String
  deriving DecidableEq, Repr

/-- The digest of the user before the update; NULL and a missing row give the empty text. -/
def oldHash (store : KeyStore) (userId : String) : String :=
  match store.users.find? (fun row => row.id == userId) with
  | none => ""
  | some row => row.apiKeyHash.getD ""

/-- `UPDATE users` with the new digest. -/
def KeyStore.setUserHash (store : KeyStore) (userId digest : String) : KeyStore :=
  { store with
    users := store.users.map (fun row =>
      if row.id = userId then { row with apiKey := "", apiKeyHash := some digest } else row)
    distinctUsers := by
      have ids : (fun row => UserRow.id (if row.id = userId
          then { row with apiKey := "", apiKeyHash := some digest } else row)) = UserRow.id := by
        funext row
        split <;> rfl
      rw [List.map_map, Function.comp_def, ids]
      exact store.distinctUsers }

/-- `UPDATE tenants` with the new digest. -/
def KeyStore.setTenantHash (store : KeyStore) (tenantId digest : String) : KeyStore :=
  { store with
    tenants := store.tenants.map (fun row =>
      if row.id = tenantId then { row with apiKeyHash := some digest } else row)
    distinct := by
      have ids : (fun row => TenantRow.id (if row.id = tenantId
          then { row with apiKeyHash := some digest } else row)) = TenantRow.id := by
        funext row
        split <;> rfl
      rw [List.map_map, Function.comp_def, ids]
      exact store.distinct }

/-- `users_api_key_hash_uidx` refuses the update: another user has the digest. -/
def usersConflict (store : KeyStore) (userId digest : String) : Bool :=
  digest != "" && store.users.any (fun row => row.id == userId)
    && store.users.any (fun row => row.id != userId && row.apiKeyHash == some digest)

/-- `tenants_api_key_hash_uidx`, which PostgreSQL has, refuses the update. -/
def tenantsConflict (backend : Backend) (store : KeyStore) (tenantId digest : String) : Bool :=
  backend == .postgres && digest != "" && store.tenants.any (fun row => row.id == tenantId)
    && store.tenants.any (fun row => row.id != tenantId && row.apiKeyHash == some digest)

def withDigest (store : KeyStore) (userId tenantId digest : String) : KeyStore :=
  (store.setUserHash userId digest).setTenantHash tenantId digest

def usersCount (store : KeyStore) (userId : String) : ℕ :=
  store.users.countP (fun row => row.id == userId)

def tenantsCount (store : KeyStore) (tenantId : String) : ℕ :=
  store.tenants.countP (fun row => row.id == tenantId)

/-- `rotate_user_api_key`. What raises before the commit is rolled back. -/
def rotateUserApiKey (sha256 : String → String) (backend : Backend) (fault : RotationFault)
    (store : KeyStore) (userId tenantId newKey : String)
    : Except RotationError RotationResult × KeyStore :=
  if fault = .select then (.error .database, store)
  else if newKey = "" then (.error .emptyKey, store)
  else if fault = .updateUsers then (.error .database, store)
  else if usersConflict store userId (sha256 newKey) then (.error .uniqueViolation, store)
  else if fault = .updateTenants then (.error .database, store)
  else if tenantsConflict backend store tenantId (sha256 newKey) then
    (.error .uniqueViolation, store)
  else if usersCount store userId ≠ 1 ∨ tenantsCount store tenantId ≠ 1 then
    (.error (.counts (usersCount store userId) (tenantsCount store tenantId)), store)
  else if fault = .commit then (.error .database, store)
  else if fault = .commitLost then
    (.error .database, withDigest store userId tenantId (sha256 newKey))
  else
    (.ok ⟨usersCount store userId, tenantsCount store tenantId, oldHash store userId⟩,
      withDigest store userId tenantId (sha256 newKey))

def registerKey (sha256 : String → String) (store : KeyStore) (rawKey : String) (info : KeyInfo)
    : KeyStore :=
  { store with
    apiKeys := fun digest => if digest = sha256 rawKey then some info else store.apiKeys digest }

def revokeKey (store : KeyStore) (digest : String) : KeyStore :=
  { store with apiKeys := fun other => if other = digest then none else store.apiKeys other }

/-- The tables as a process with another registry sees them. -/
def KeyStore.withRegistry (store : KeyStore) (apiKeys : String → Option KeyInfo) : KeyStore :=
  { store with apiKeys := apiKeys }

/-- The switch-over of `/account/rotate-key` after a rotation that returned. -/
def switchOver (sha256 : String → String) (store : KeyStore) (tenantId newKey : String)
    (result : RotationResult) : KeyStore :=
  let revoked := if result.oldApiKeyHash = "" then store else revokeKey store result.oldApiKeyHash
  let plan := match getTenant revoked tenantId with
    | none => "free"
    | some row => row.plan
  registerKey sha256 revoked newKey ⟨some tenantId, some plan⟩

end RomaBridge.Model.Keys
