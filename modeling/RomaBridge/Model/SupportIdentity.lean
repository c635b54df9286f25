import RomaBridge.Foundation.Trace
import RomaBridge.Model.PyValues

/-! `src/support_chat/identity.py` and `identity_admin.py`: logins, sessions and their revocation
over the tables of migration 014. Every query of a call is a step of its own, and the calls take
their steps in any order (READ COMMITTED). Times count microseconds.
-/

namespace RomaBridge.Model.SupportIdentity

open RomaBridge.Foundation RomaBridge.Model

/-- A row of `support_identities`. -/
structure Identity where
  identityId : String
  subject : String
  isActive : Bool
  sessionVersion : Int
  deriving DecidableEq, Repr

/-- A row of `support_identity_memberships`. -/
structure Membership where
  identityId : String
  tenantId : String
  role : String
  isActive : Bool
  deriving DecidableEq, Repr

/-- A row of `support_credentials`. -/
structure Credential where
  credentialHash : String
  credentialId : String
  identityId : String
  expiresAt : Int
  revokedAt : Option Int
  deriving DecidableEq, Repr

/-- A row of `support_sessions`, which its unique hash identifies. -/
structure SupportSession where
  sessionHash : String
  identityId : String
  sessionVersion : Int
  issuedAt : Int
  expiresAt : Int
  revokedAt : Option Int
  deriving DecidableEq, Repr

structure Database where
  identities : Table String Identity Identity.identityId
  memberships : List Membership
  credentials : Table String Credential Credential.credentialHash
  sessions : Table String SupportSession SupportSession.sessionHash

def supportAgentRole : String := "support_agent"

/-- `SESSION_TTL_SECONDS`. -/
def sessionTtl : Int := 3600 * 1000000

/-- `SupportPrincipal`; the session stands under its hash. -/
structure Principal where
  actorId : String
  identityId : String
  roles : List String
  tenantIds : List String
  session : String
  sessionVersion : Int
  authMethod : String
  issuedAt : Int
  expiresAt : Int
  issuer : String
  audience : String
  deriving DecidableEq, Repr

/-- The exceptions, with their messages; `integrity` is that of a unique constraint. -/
inductive AuthError where
  | auth (message : String)
  | credential (message : String)
  | session (message : String)
  | integrity
  deriving DecidableEq, Repr

inductive Outcome where
  | principal (principal : Principal)
  | answered (found : Bool)
  | version (sessionVersion : Int)
  | count (rows : ℕ)
  | created
  | refused (error : AuthError)
  deriving DecidableEq, Repr

/-- The calls. A login brings the token that is generated in it, and every call its clock. -/
inductive SupportRequest where
  | login (credential token : String) (now : Int)
  | authenticate (token : String) (now : Int)
  | logout (token : String) (now : Int)
  | bump (identityId : String)
  | revokeSessions (subject : String) (now : Int)
  | deactivate (subject : String) (now : Int)
  | revokeCredential (credentialId subject : String) (now : Int)
  | createIdentity (identityId subject credential credentialId : String) (tenants : List String)
    (expiresAt : Int)
  deriving DecidableEq, Repr

/-- Where a call stands, with what it has read. -/
inductive Point where
  | asked
  | credential (credential : Credential)
  | identity (identity : Identity)
  | memberships (identity : Identity) (memberships : List Membership)
  | session (session : SupportSession)
  | sessionIdentity (session : SupportSession) (identity : Identity)
  | revoke (session : SupportSession)
  | rows (identity : Identity)
  | version (identity : Identity) (revoked : List String)
  | credentials (revoked : List String)
  | ended (outcome : Outcome)
  deriving DecidableEq, Repr

/-- `raise`. -/
def refuse (error : AuthError) : Point := .ended (.refused error)

def activeMemberships (db : Database) (identityId : String) : List Membership :=
  db.memberships.filter (fun membership =>
    membership.identityId = identityId && membership.isActive && membership.role = supportAgentRole)

def buildPrincipal (identity : Identity) (session : SupportSession) (memberships : List Membership)
    : Point :=
  let tenantIds := (memberships.map (fun membership => pyStrip membership.tenantId)).filter
    (fun tenant => tenant ≠ "")
  if tenantIds = [] then
    refuse (.session "identity has no explicit tenant scope")
  else
    .ended (.principal {
      actorId := "support_agent:" ++ identity.identityId
      identityId := identity.identityId
      roles := [supportAgentRole]
      tenantIds
      session := session.sessionHash
      sessionVersion := session.sessionVersion
      authMethod := "support_session"
      issuedAt := session.issuedAt
      expiresAt := session.expiresAt
      issuer := "roma-execution-bridge"
      audience := "support-api"
    })

/-- `_login_sync`: the credential, the identity and the memberships are read one after another, and
the session is stored with the version that was read.
-/
def loginStep (hash : String → String) (credential token : String) (now : Int) (point : Point)
    (db : Database)
    : Point × Database :=
  match point with
  | .asked =>
      if credential = "" then
        (refuse (.credential "credential is required"), db)
      else
        match db.credentials.find? (hash credential) with
        | none => (refuse (.credential "credential is not recognised"), db)
        | some row =>
            if row.revokedAt.isSome then
              (refuse (.credential "credential is revoked"), db)
            else if row.expiresAt ≤ now then
              (refuse (.credential "credential is expired"), db)
            else
              (.credential row, db)
  | .credential row =>
      match db.identities.find? row.identityId with
      | none => (refuse (.credential "identity is not active"), db)
      | some identity =>
          if identity.isActive then
            (.identity identity, db)
          else
            (refuse (.credential "identity is not active"), db)
  | .identity identity =>
      let memberships := activeMemberships db identity.identityId
      if memberships = [] then
        (refuse (.credential "identity has no active tenant membership"), db)
      else
        (.memberships identity memberships, db)
  | .memberships identity memberships =>
      let session : SupportSession := {
        sessionHash := hash token
        identityId := identity.identityId
        sessionVersion := identity.sessionVersion
        issuedAt := now
        expiresAt := now + sessionTtl
        revokedAt := none
      }
      match db.sessions.insert? session with
      | none => (refuse .integrity, db)
      | some sessions => (buildPrincipal identity session memberships, { db with sessions })
  | _ => (point, db)

/-- `_authenticate_session_sync`: the session, the identity and the memberships are read one after
another.
-/
def authenticateStep (hash : String → String) (token : String) (now : Int) (point : Point)
    (db : Database)
    : Point :=
  match point with
  | .asked =>
      if token = "" then
        refuse (.session "session is required")
      else
        match db.sessions.find? (hash token) with
        | none => refuse (.session "session is not recognised")
        | some row =>
            if row.revokedAt.isSome then
              refuse (.session "session is revoked")
            else if row.expiresAt ≤ now then
              refuse (.session "session is expired")
            else
              .session row
  | .session row =>
      match db.identities.find? row.identityId with
      | none => refuse (.session "identity is not active")
      | some identity =>
          if !identity.isActive then
            refuse (.session "identity is not active")
          else if row.sessionVersion ≠ identity.sessionVersion then
            refuse (.session "session was invalidated")
          else
            .sessionIdentity row identity
  | .sessionIdentity row identity =>
      let memberships := activeMemberships db identity.identityId
      if memberships = [] then
        refuse (.session "identity has no active tenant membership")
      else
        buildPrincipal identity row memberships
  | _ => point

/-- `row.revoked_at = now` for the rows that were read, at the commit. -/
def revokeRows (hashes : List String) (now : Int) (db : Database) : Database :=
  { db with
    sessions := db.sessions.update (fun row => hashes.contains row.sessionHash)
      (fun row => { row with revokedAt := some now }) (fun _ => rfl) }

/-- `_logout_sync`. -/
def logoutStep (hash : String → String) (token : String) (now : Int) (point : Point)
    (db : Database)
    : Point × Database :=
  match point with
  | .asked =>
      if token = "" then
        (.ended (.answered false), db)
      else
        match db.sessions.find? (hash token) with
        | none => (.ended (.answered false), db)
        | some row =>
            if row.revokedAt.isSome then (.ended (.answered true), db) else (.revoke row, db)
  | .revoke row => (.ended (.answered true), revokeRows [row.sessionHash] now db)
  | _ => (point, db)

/-- `identity.session_version = int(identity.session_version) + 1`, written over whatever the row
holds at the commit, and `identity.is_active = False`.
-/
def writeVersion (identity : Identity) (deactivates : Bool) (db : Database) : Database :=
  { db with
    identities := db.identities.update (fun row => row.identityId = identity.identityId)
      (fun row => { row with
        sessionVersion := identity.sessionVersion + 1
        isActive := row.isActive && !deactivates }) (fun _ => rfl) }

def bumpStep (identityId : String) (point : Point) (db : Database) : Point × Database :=
  match point with
  | .asked =>
      match db.identities.find? identityId with
      | none => (refuse (.auth "support identity not found"), db)
      | some identity => (.version identity [], db)
  | .version identity _ =>
      (.ended (.version (identity.sessionVersion + 1)), writeVersion identity false db)
  | _ => (point, db)

def bySubject (db : Database) (subject : String) : Option Identity :=
  db.identities.rows.find? (fun identity => identity.subject = subject)

/-- `revoke_sessions` and `deactivate_identity`: the identity and its unrevoked sessions are read
one after the other, and written together.
-/
def revokeStep (deactivates : Bool) (subject : String) (now : Int) (point : Point) (db : Database)
    : Point × Database :=
  match point with
  | .asked =>
      if pyStrip subject = "" then
        (refuse (.auth "subject must be non-empty"), db)
      else
        match bySubject db (pyStrip subject) with
        | none => (refuse (.auth ("support identity not found: " ++ pyStrip subject)), db)
        | some identity => (.rows identity, db)
  | .rows identity =>
      let unrevoked := db.sessions.rows.filter (fun row =>
        row.identityId = identity.identityId && row.revokedAt.isNone)
      (.version identity (unrevoked.map (·.sessionHash)), db)
  | .version identity revoked =>
      (.ended (if deactivates then .answered true else .version (identity.sessionVersion + 1)),
        revokeRows revoked now (writeVersion identity deactivates db))
  | _ => (point, db)

/-- `revoke_credential`, by a credential id or else by the subject. -/
def revokeCredentialStep (credentialId subject : String) (now : Int) (point : Point) (db : Database)
    : Point × Database :=
  let unrevoked (selected : Credential → Bool) : Point :=
    .credentials ((db.credentials.rows.filter (fun row =>
      row.revokedAt.isNone && selected row)).map (·.credentialHash))
  match point with
  | .asked =>
      if credentialId = "" && subject = "" then
        (refuse (.auth "provide --credential-id or --subject"), db)
      else if credentialId ≠ "" then
        (unrevoked (fun row => row.credentialId = credentialId), db)
      else if pyStrip subject = "" then
        (refuse (.auth "subject must be non-empty"), db)
      else
        match bySubject db (pyStrip subject) with
        | none => (refuse (.auth ("support identity not found: " ++ pyStrip subject)), db)
        | some identity => (unrevoked (fun row => row.identityId = identity.identityId), db)
  | .credentials hashes =>
      (.ended (.count hashes.length),
        { db with
          credentials := db.credentials.update (fun row => hashes.contains row.credentialHash)
            (fun row => { row with revokedAt := some now }) (fun _ => rfl) })
  | _ => (point, db)

/-- `_clean_tenant_ids`, after the tenants that were cleaned so far. -/
def cleanTenantIds (cleaned : List String) : List String → Except AuthError (List String)
  | [] =>
      if cleaned = [] then
        .error (.auth "at least one explicit --tenant-id is required")
      else
        .ok cleaned
  | raw :: rest =>
      let tenant := pyStrip raw
      if tenant = "" then
        .error (.auth "tenant id must be non-empty")
      else if cleaned.contains tenant then
        .error (.auth ("duplicate tenant membership: " ++ tenant))
      else
        cleanTenantIds (cleaned ++ [tenant]) rest

/-- `create_identity`, one transaction. A second identity of a subject is refused by the query or by
the unique constraint.
-/
def createIdentity (hash : String → String) (identityId subject credential credentialId : String)
    (tenants : List String) (expiresAt : Int) (db : Database)
    : Point × Database :=
  if pyStrip subject = "" then
    (refuse (.auth "subject must be non-empty"), db)
  else
    match cleanTenantIds [] tenants with
    | .error error => (refuse error, db)
    | .ok cleaned =>
        if (bySubject db (pyStrip subject)).isSome then
          (refuse (.auth ("support identity already exists: " ++ pyStrip subject)), db)
        else
          match db.identities.insert? ⟨identityId, pyStrip subject, true, 1⟩,
            db.credentials.insert? ⟨hash credential, credentialId, identityId, expiresAt, none⟩ with
          | some identities, some credentials =>
              let memberships := cleaned.map (fun tenant =>
                Membership.mk identityId tenant supportAgentRole true)
              (.ended .created,
                { db with
                  identities, credentials, memberships := db.memberships ++ memberships })
          | _, _ => (refuse .integrity, db)

def advance (hash : String → String) (request : SupportRequest) (point : Point) (db : Database)
    : Point × Database :=
  match request with
  | .login credential token now => loginStep hash credential token now point db
  | .authenticate token now => (authenticateStep hash token now point db, db)
  | .logout token now => logoutStep hash token now point db
  | .bump identityId => bumpStep identityId point db
  | .revokeSessions subject now => revokeStep false subject now point db
  | .deactivate subject now => revokeStep true subject now point db
  | .revokeCredential credentialId subject now =>
      revokeCredentialStep credentialId subject now point db
  | .createIdentity identityId subject credential credentialId tenants expiresAt =>
      match point with
      | .asked =>
          createIdentity hash identityId subject credential credentialId tenants expiresAt db
      | _ => (point, db)

/-- The identity whose version a step writes, and the sessions that it revokes with it. -/
def writtenVersion : SupportRequest → Point → Option (Identity × List String)
  | .bump _, .version identity _ => some (identity, [])
  | .revokeSessions _ _, .version identity revoked => some (identity, revoked)
  | .deactivate _ _, .version identity revoked => some (identity, revoked)
  | _, _ => none

def loggedOut (hash : String → String) (db : Database) : SupportRequest → Point → List String
  | .logout token _, .asked =>
      match db.sessions.find? (hash token) with
      | some row => if token ≠ "" && row.revokedAt.isSome then [row.sessionHash] else []
      | none => []
  | .logout _ _, .revoke row => [row.sessionHash]
  | _, _ => []

/-- The sessions that a step ends: a logout that of its token, and a version that is written all of
its identity.
-/
def endsSessions (hash : String → String) (request : SupportRequest) (point : Point) (db : Database)
    : List String :=
  match writtenVersion request point with
  | some (identity, _) =>
      (db.sessions.rows.filter (fun row =>
        row.identityId = identity.identityId)).map (·.sessionHash)
  | none => loggedOut hash db request point

/-- A call, and whether the session of its token had ended when it began. -/
structure SupportCall where
  request : SupportRequest
  late : Bool
  point : Point
  deriving DecidableEq, Repr

/-- The database, the calls so far, and the sessions that were ended. -/
structure World where
  db : Database
  ended : List String
  calls : List SupportCall

/-- A call begins or takes its next step, or the memberships are changed. -/
inductive Action where
  | start (request : SupportRequest)
  | step (index : ℕ)
  | changeMemberships (memberships : List Membership)
  deriving DecidableEq, Repr

def isLate (hash : String → String) (ended : List String) : SupportRequest → Bool
  | .authenticate token _ => ended.contains (hash token)
  | _ => false

/-- How a call that was still going ends, if it does. -/
def outcome? (before after : Point) : Option Outcome :=
  match before, after with
  | .ended _, _ => none
  | _, .ended outcome => some outcome
  | _, _ => none

def supportStep (hash : String → String) (world : World) : Action → Option Outcome × World
  | .start request =>
      (none, { world with
        calls := world.calls ++ [⟨request, isLate hash world.ended request, .asked⟩] })
  | .changeMemberships memberships =>
      (none, { world with db := { world.db with memberships } })
  | .step index =>
      match world.calls[index]? with
      | none => (none, world)
      | some call =>
          let (point, db) := advance hash call.request call.point world.db
          (outcome? call.point point,
            { db
              ended := world.ended ++ endsSessions hash call.request call.point world.db
              calls := world.calls.set index { call with point } })

def newWorld : World := ⟨⟨.empty, [], .empty, .empty⟩, [], []⟩

end RomaBridge.Model.SupportIdentity
