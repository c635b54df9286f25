import RomaBridge.Model.SupportIdentity
import Mathlib.Data.List.DropRight

/-! Support sessions over every interleaving of logins, authentications, logouts, revocations and
changes of the memberships: which authentications succeed, and that no ended session comes back.
-/

namespace RomaBridge.Properties

open RomaBridge RomaBridge.Foundation RomaBridge.Model RomaBridge.Model.SupportIdentity

variable {hash : String → String} {request : SupportRequest} {point : Point}
  {db before after next : Database} {session : SupportSession} {identityId token : String}
  {identity : Identity} {world : World} {calls : List SupportCall} {now : Int} {outcome : Outcome}

-- What is to hold, and when

def Scoped (db : Database) (identityId tenant : String) : Prop :=
  ∃ membership ∈ db.memberships, membership.identityId = identityId ∧ membership.isActive = true
    ∧ membership.role = supportAgentRole ∧ membership.tenantId = tenant ∧ pyStrip tenant ≠ ""

/-- The token is that of a session that is not revoked and not over, and whose identity is active
with the version of the session.
-/
def TokenHolds (hash : String → String) (db : Database) (token : String) (now : Int)
    (identityId : String)
    : Prop :=
  token ≠ "" ∧ ∃ session, db.sessions.find? (hash token) = some session
    ∧ session.revokedAt = none ∧ now < session.issuedAt + sessionTtl
    ∧ session.identityId = identityId
    ∧ ∃ identity, db.identities.find? identityId = some identity ∧ identity.isActive = true
      ∧ identity.sessionVersion = session.sessionVersion

/-- What the authentication of a token is to succeed on. -/
def Accepted (hash : String → String) (db : Database) (token : String) (now : Int) : Prop :=
  ∃ identityId, TokenHolds hash db token now identityId ∧ ∃ tenant, Scoped db identityId tenant

def NoneReturns (world : World) : Prop :=
  ∀ digest ∈ world.ended, ∀ session, world.db.sessions.find? digest = some session →
    session.revokedAt = none →
    ∀ identity, world.db.identities.find? session.identityId = some identity →
      identity.sessionVersion ≠ session.sessionVersion

/-- An authentication that succeeds in this step began before its session was ended, is to succeed,
and has the tenants of the memberships for scopes; one that fails is not to succeed.
-/
def AuthenticationRight (hash : String → String) (visit : Visit World Action (Option Outcome))
    : Prop :=
  ∀ index call token now, visit.call = .step index → visit.before.calls[index]? = some call →
    call.request = .authenticate token now →
    (∀ principal, visit.reply = some (.principal principal) →
      call.late = false ∧ TokenHolds hash visit.before.db token now principal.identityId
      ∧ (∃ tenant, Scoped visit.before.db principal.identityId tenant)
      ∧ ∀ tenant, tenant ∈ principal.tenantIds ↔ Scoped visit.before.db principal.identityId tenant)
    ∧ ∀ error, visit.reply = some (.refused error) → ¬ Accepted hash visit.before.db token now

def SessionsRight (hash : String → String) (visit : Visit World Action (Option Outcome)) : Prop :=
  AuthenticationRight hash visit ∧ NoneReturns visit.after

def StillHolds (db : Database) (session : SupportSession) : Prop :=
  (∃ row, db.sessions.find? session.sessionHash = some row ∧ row.revokedAt = none)
  ∧ ∃ identity, db.identities.find? session.identityId = some identity ∧ identity.isActive = true
    ∧ identity.sessionVersion = session.sessionVersion

def VersionIsNew (db : Database) (identity : Identity) (revoked : List String) : Prop :=
  ∀ session ∈ db.sessions.rows, session.identityId = identity.identityId →
    session.revokedAt = none → session.sessionHash ∉ revoked →
    session.sessionVersion ≠ identity.sessionVersion + 1

/-- What a step of a call needs: a version that is written has to be new, and an authentication that
finds a scope needs a session that still holds and tenants without blanks around them.
-/
def CallAllowed (db : Database) (call : SupportCall) : Prop :=
  (∀ identity revoked, writtenVersion call.request call.point = some (identity, revoked) →
    VersionIsNew db identity revoked)
  ∧ ∀ token now session identity, call.request = .authenticate token now →
    call.point = .sessionIdentity session identity →
    (∃ tenant, Scoped db identity.identityId tenant) →
      StillHolds db session
      ∧ ∀ tenant, Scoped db identity.identityId tenant → pyStrip tenant = tenant

def SessionsAllowed (world : World) : Action → Prop
  | .step index => ∀ call, world.calls[index]? = some call → CallAllowed world.db call
  | _ => True

-- Stripped text

/-- Stripping twice is stripping once. Witness: what is left after the blanks behind are dropped
begins as it did.
-/
theorem pyStrip_pyStrip (text : String) : pyStrip (pyStrip text) = pyStrip text := by
  have stripped : ∀ list : List Char, pyStrip (String.ofList list)
      = String.ofList ((list.dropWhile isPySpace).rdropWhile isPySpace) := by
    intro list
    simp [pyStrip, List.rdropWhile]
  obtain ⟨list, rfl⟩ : ∃ list, String.ofList list = text := ⟨text.toList, String.ofList_toList⟩
  rw [stripped, stripped]
  have front : ((list.dropWhile isPySpace).rdropWhile isPySpace).dropWhile isPySpace
      = (list.dropWhile isPySpace).rdropWhile isPySpace := by
    rw [List.dropWhile_eq_self_iff]
    intro long
    have start := List.rdropWhile_prefix isPySpace (list.dropWhile isPySpace)
    rw [start.getElem long]
    exact List.dropWhile_get_zero_not isPySpace list (lt_of_lt_of_le long start.length_le)
  rw [front, List.rdropWhile_idempotent]

-- What a step does to the tables

theorem find?_revokeRows (hashes : List String) (now : Int) (db : Database) (digest : String)
    : (revokeRows hashes now db).sessions.find? digest
      = (db.sessions.find? digest).map (fun row =>
        if hashes.contains row.sessionHash then { row with revokedAt := some now } else row) := by
  unfold revokeRows
  rw [Table.find?_update]

theorem find?_writeVersion (identity : Identity) (deactivates : Bool) (db : Database)
    (identityId : String)
    : (writeVersion identity deactivates db).identities.find? identityId
      = (db.identities.find? identityId).map (fun row =>
        if row.identityId = identity.identityId then
          { row with
            sessionVersion := identity.sessionVersion + 1
            isActive := row.isActive && !deactivates }
        else row) := by
  simp [writeVersion, Table.find?_update]

theorem revokeRows_nil (now : Int) (db : Database) : revokeRows [] now db = db := by
  simp [revokeRows, Table.update]

/-- The ways a step leaves the tables, with what it writes and ends. -/
inductive Written (hash : String → String) (db : Database) (request : SupportRequest)
    (point : Point)
    : Database → Prop where
  | kept (no : writtenVersion request point = none)
    (ends : ∀ digest ∈ endsSessions hash request point db,
      ∃ row, db.sessions.find? digest = some row ∧ row.revokedAt ≠ none)
    : Written hash db request point db
  | stored (no : writtenVersion request point = none)
    (ends : endsSessions hash request point db = []) (identity : Identity)
    (memberships : List Membership) (at_ : point = .memberships identity memberships)
    (row : SupportSession) (owner : row.identityId = identity.identityId)
    (expires : row.expiresAt = row.issuedAt + sessionTtl)
    (sessions : Table String SupportSession SupportSession.sessionHash)
    (inserted : db.sessions.insert? row = some sessions)
    : Written hash db request point { db with sessions }
  | revoked (no : writtenVersion request point = none) (session : SupportSession)
    (at_ : point = .revoke session)
    (ends : endsSessions hash request point db = [session.sessionHash]) (now : Int)
    : Written hash db request point (revokeRows [session.sessionHash] now db)
  | versioned (identity : Identity) (rows : List String)
    (wrote : writtenVersion request point = some (identity, rows)) (deactivates : Bool) (now : Int)
    : Written hash db request point (revokeRows rows now (writeVersion identity deactivates db))
  | created (no : writtenVersion request point = none)
    (ends : endsSessions hash request point db = [])
    (identity : Identity) (identities : Table String Identity Identity.identityId)
    (inserted : db.identities.insert? identity = some identities)
    (credentials : Table String Credential Credential.credentialHash)
    (memberships : List Membership)
    : Written hash db request point { db with identities, credentials, memberships }
  | credentials (no : writtenVersion request point = none)
    (ends : endsSessions hash request point db = [])
    (credentials : Table String Credential Credential.credentialHash)
    : Written hash db request point { db with credentials }

theorem endsSessions_eq_nil (no : writtenVersion request point = none)
    (stays : loggedOut hash db request point = [])
    : endsSessions hash request point db = [] := by
  simp [endsSessions, no, stays]

theorem Written.same (no : writtenVersion request point = none)
    (stays : loggedOut hash db request point = [])
    : Written hash db request point db := by
  refine .kept no ?_
  intro digest member
  rw [endsSessions_eq_nil no stays] at member
  cases member

theorem written_login (hash : String → String) (credential token : String) (now : Int)
    (point : Point) (db : Database)
    : Written hash db (.login credential token now) point
        (loginStep hash credential token now point db).2 := by
  have same : Written hash db (.login credential token now) point db := .same rfl rfl
  cases point with
  | memberships identity memberships =>
      simp only [loginStep]
      split
      · exact same
      · rename_i sessions inserted
        exact .stored rfl (endsSessions_eq_nil rfl rfl) identity memberships rfl _ rfl rfl sessions
          inserted
  | asked =>
      simp only [loginStep]
      repeat' split
      all_goals exact same
  | credential row =>
      simp only [loginStep]
      repeat' split
      all_goals exact same
  | identity identity =>
      simp only [loginStep]
      repeat' split
      all_goals exact same
  | _ => exact same

theorem written_logout (hash : String → String) (token : String) (now : Int) (point : Point)
    (db : Database)
    : Written hash db (.logout token now) point (logoutStep hash token now point db).2 := by
  have ends : endsSessions hash (.logout token now) point db
      = loggedOut hash db (.logout token now) point := by
    simp [endsSessions, writtenVersion]
  cases point with
  | asked =>
      have unchanged : (logoutStep hash token now .asked db).2 = db := by
        simp only [logoutStep]
        repeat' split
        all_goals rfl
      rw [unchanged]
      refine .kept rfl ?_
      intro digest member
      rw [ends] at member
      cases found : db.sessions.find? (hash token) with
      | none => simp [loggedOut, found] at member
      | some row =>
          by_cases revoked : (decide (token ≠ "") && row.revokedAt.isSome) = true
          · simp only [loggedOut, found, if_pos revoked, List.mem_singleton] at member
            obtain ⟨stored, key⟩ := Table.find?_some found
            refine ⟨row, ?_, ?_⟩
            · rw [member, key, found]
            · rw [Bool.and_eq_true] at revoked
              exact Option.isSome_iff_ne_none.mp revoked.2
          · simp only [loggedOut, found, if_neg revoked] at member
            cases member
  | revoke row => exact .revoked rfl row rfl ends now
  | _ => exact .same rfl rfl

theorem written_bump (hash : String → String) (identityId : String) (point : Point) (db : Database)
    : Written hash db (.bump identityId) point (bumpStep identityId point db).2 := by
  cases point with
  | version identity rows =>
      have written : Written hash db (.bump identityId) (.version identity rows)
          (revokeRows [] 0 (writeVersion identity false db)) :=
        .versioned identity [] rfl false 0
      rwa [revokeRows_nil] at written
  | asked =>
      simp only [bumpStep]
      split
      · exact .same rfl rfl
      · exact .same rfl rfl
  | _ => exact .same rfl rfl

theorem written_revoke (hash : String → String) (request : SupportRequest) (deactivates : Bool)
    (subject : String) (now : Int) (point : Point) (db : Database)
    (writes : ∀ identity rows,
      writtenVersion request (.version identity rows) = some (identity, rows))
    (otherwise : (∀ identity rows, point ≠ .version identity rows) →
      writtenVersion request point = none ∧ loggedOut hash db request point = [])
    : Written hash db request point (revokeStep deactivates subject now point db).2 := by
  have same : (∀ identity rows, point ≠ .version identity rows) →
      Written hash db request point db :=
    fun other => .same (otherwise other).1 (otherwise other).2
  cases point with
  | version identity rows => exact .versioned identity rows (writes identity rows) deactivates now
  | asked =>
      have unchanged : (revokeStep deactivates subject now .asked db).2 = db := by
        simp only [revokeStep]
        repeat' split
        all_goals rfl
      rw [unchanged]
      exact same (by simp)
  | _ => exact same (by simp)

theorem written_revokeCredential (hash : String → String) (credentialId subject : String)
    (now : Int) (point : Point) (db : Database)
    : Written hash db (.revokeCredential credentialId subject now) point
        (revokeCredentialStep credentialId subject now point db).2 := by
  cases point with
  | credentials hashes => exact .credentials rfl (endsSessions_eq_nil rfl rfl) _
  | asked =>
      have unchanged : (revokeCredentialStep credentialId subject now .asked db).2 = db := by
        simp only [revokeCredentialStep]
        repeat' split
        all_goals rfl
      rw [unchanged]
      exact .same rfl rfl
  | _ => exact .same rfl rfl

/-- What a provisioning writes. -/
theorem written_createIdentity (hash : String → String)
    (identityId subject credential credentialId : String) (tenants : List String) (expiresAt : Int)
    (point : Point) (db : Database)
    : Written hash db (.createIdentity identityId subject credential credentialId tenants expiresAt)
        point
        (createIdentity hash identityId subject credential credentialId tenants expiresAt db).2
    := by
  have same : Written hash db
      (.createIdentity identityId subject credential credentialId tenants expiresAt) point db :=
    .same rfl rfl
  unfold createIdentity
  split
  · exact same
  · split
    · exact same
    · split
      · exact same
      · split
        · rename_i identities credentials inserted _
          exact .created rfl (endsSessions_eq_nil rfl rfl) _ identities inserted credentials _
        · exact same

/-- What a step writes. One case per call. -/
theorem written_advance (hash : String → String) (request : SupportRequest) (point : Point)
    (db : Database)
    : Written hash db request point (advance hash request point db).2 := by
  cases request with
  | login credential token now => exact written_login hash credential token now point db
  | authenticate token now => exact .same rfl rfl
  | logout token now => exact written_logout hash token now point db
  | bump identityId => exact written_bump hash identityId point db
  | revokeSessions subject now =>
      refine written_revoke hash _ false subject now point db (fun _ _ => rfl) ?_
      intro other
      cases point with
      | version identity rows => exact absurd rfl (other identity rows)
      | _ => exact ⟨rfl, rfl⟩
  | deactivate subject now =>
      refine written_revoke hash _ true subject now point db (fun _ _ => rfl) ?_
      intro other
      cases point with
      | version identity rows => exact absurd rfl (other identity rows)
      | _ => exact ⟨rfl, rfl⟩
  | revokeCredential credentialId subject now =>
      exact written_revokeCredential hash credentialId subject now point db
  | createIdentity identityId subject credential credentialId tenants expiresAt =>
      cases point with
      | asked =>
          exact written_createIdentity hash identityId subject credential credentialId tenants
            expiresAt .asked db
      | _ => exact .same rfl rfl

-- Rows stay

/-- The session is stored, perhaps revoked since. -/
def KeptIn (db : Database) (session : SupportSession) : Prop :=
  ∃ row, db.sessions.find? session.sessionHash = some row
    ∧ row = { session with revokedAt := row.revokedAt }

/-- Sessions stay as they were stored but for their revocation, and identities stay. -/
structure Grows (before after : Database) : Prop where
  sessions : ∀ digest row, before.sessions.find? digest = some row →
    ∃ row', after.sessions.find? digest = some row'
      ∧ row' = { row with revokedAt := row'.revokedAt }
  identities : ∀ identityId, (before.identities.find? identityId).isSome = true →
    (after.identities.find? identityId).isSome = true

theorem Grows.of_eq (sessions : after.sessions = before.sessions)
    (identities : after.identities = before.identities)
    : Grows before after := by
  refine ⟨?_, ?_⟩
  · intro digest row found
    exact ⟨row, by rw [sessions, found], rfl⟩
  · intro identityId stored
    rw [identities, stored]

theorem grows_revokeRows (hashes : List String) (now : Int) (db : Database)
    : Grows db (revokeRows hashes now db) := by
  refine ⟨?_, fun _ stored => stored⟩
  intro digest row found
  rw [find?_revokeRows, found]
  refine ⟨_, rfl, ?_⟩
  dsimp only
  split
  · rfl
  · rfl

theorem grows_writeVersion (identity : Identity) (deactivates : Bool) (db : Database)
    : Grows db (writeVersion identity deactivates db) := by
  refine ⟨fun digest row found => ⟨row, found, rfl⟩, ?_⟩
  intro identityId stored
  rw [find?_writeVersion, Option.isSome_map, stored]

theorem Grows.trans {first second third : Database} (left : Grows first second)
    (right : Grows second third)
    : Grows first third := by
  refine ⟨?_, fun identityId stored => right.identities _ (left.identities _ stored)⟩
  intro digest row found
  obtain ⟨middle, foundMiddle, sameMiddle⟩ := left.sessions digest row found
  obtain ⟨last, foundLast, sameLast⟩ := right.sessions digest middle foundMiddle
  refine ⟨last, foundLast, ?_⟩
  rw [sameLast, sameMiddle]

theorem Written.grows (written : Written hash db request point next)
    : Grows db next := by
  cases written with
  | kept => exact .of_eq rfl rfl
  | stored _ _ _ _ _ _ _ _ sessions inserted =>
      refine ⟨?_, fun _ is => is⟩
      exact fun digest row found => ⟨row, Table.find?_insert?_of_some inserted found, rfl⟩
  | revoked _ session _ _ now => exact grows_revokeRows _ now db
  | versioned identity rows _ deactivates now =>
      exact (grows_writeVersion identity deactivates db).trans (grows_revokeRows rows now _)
  | created _ _ identity identities inserted =>
      refine ⟨fun digest row found => ⟨row, found, rfl⟩, ?_⟩
      intro identityId is
      obtain ⟨stored, found⟩ := Option.isSome_iff_exists.mp is
      rw [Table.find?_insert?_of_some inserted found]
      rfl
  | credentials => exact .of_eq rfl rfl

theorem KeptIn.grows (kept : KeptIn before session) (grows : Grows before after)
    : KeptIn after session := by
  obtain ⟨row, found, same⟩ := kept
  obtain ⟨row', found', same'⟩ := grows.sessions _ _ found
  refine ⟨row', found', ?_⟩
  rw [same', same]

-- What the calls have read

/-- The sessions last their time, and their identities exist. -/
def RowsSound (db : Database) : Prop :=
  ∀ digest row, db.sessions.find? digest = some row →
    row.expiresAt = row.issuedAt + sessionTtl
    ∧ (db.identities.find? row.identityId).isSome = true

def ReadSession (hash : String → String) (request : SupportRequest) (session : SupportSession)
    : Prop :=
  ∀ token now, request = .authenticate token now →
    token ≠ "" ∧ session.sessionHash = hash token ∧ now < session.expiresAt

/-- What a call has read is stored, by where it stands. -/
def PointSound (hash : String → String) (db : Database) (request : SupportRequest) : Point → Prop
  | .identity identity => (db.identities.find? identity.identityId).isSome = true
  | .memberships identity _ => (db.identities.find? identity.identityId).isSome = true
  | .rows identity => (db.identities.find? identity.identityId).isSome = true
  | .version identity _ => (db.identities.find? identity.identityId).isSome = true
  | .session session => KeptIn db session ∧ ReadSession hash request session
  | .sessionIdentity session identity =>
      KeptIn db session ∧ ReadSession hash request session
      ∧ identity.identityId = session.identityId
  | .revoke session => (db.sessions.find? session.sessionHash).isSome = true
  | _ => True

theorem PointSound.grows (sound : PointSound hash before request point) (grows : Grows before after)
    : PointSound hash after request point := by
  cases point with
  | identity identity => exact grows.identities _ sound
  | memberships identity memberships => exact grows.identities _ sound
  | rows identity => exact grows.identities _ sound
  | version identity rows => exact grows.identities _ sound
  | session session => exact ⟨sound.1.grows grows, sound.2⟩
  | sessionIdentity session identity => exact ⟨sound.1.grows grows, sound.2⟩
  | revoke session =>
      obtain ⟨row, found⟩ := Option.isSome_iff_exists.mp sound
      obtain ⟨row', found', -⟩ := grows.sessions _ _ found
      exact Option.isSome_iff_exists.mpr ⟨row', found'⟩
  | _ => trivial

theorem isSome_of_find? (found : db.identities.find? identityId = some identity)
    : (db.identities.find? identity.identityId).isSome = true := by
  rw [(Table.find?_some found).2, found]
  rfl

theorem isSome_of_bySubject {subject : String} (found : bySubject db subject = some identity)
    : (db.identities.find? identity.identityId).isSome = true := by
  rw [Table.find?_of_mem (List.mem_of_find?_eq_some found)]
  rfl

theorem pointSound_buildPrincipal (hash : String → String) (db : Database)
    (request : SupportRequest) (identity : Identity) (session : SupportSession)
    (memberships : List Membership)
    : PointSound hash db request (buildPrincipal identity session memberships) := by
  unfold buildPrincipal
  dsimp only
  split
  · trivial
  · trivial

/-- What `revoke_sessions` or `deactivate_identity` has read is stored. One case per point. -/
theorem pointSound_revoke (deactivates : Bool) (subject : String) (now : Int)
    (sound : PointSound hash db request point)
    : PointSound hash db request (revokeStep deactivates subject now point db).1 := by
  cases point with
  | asked =>
      simp only [revokeStep]
      split
      · trivial
      · split
        · trivial
        · rename_i identity found
          exact isSome_of_bySubject found
  | rows identity => exact sound
  | version identity revoked => trivial
  | _ => exact sound

theorem pointSound_login (credential token : String) (now : Int)
    (sound : PointSound hash db request point)
    : PointSound hash db request (loginStep hash credential token now point db).1 := by
  cases point with
  | asked =>
      simp only [loginStep]
      repeat' split
      all_goals trivial
  | credential row =>
      simp only [loginStep]
      split
      · trivial
      · rename_i identity found
        split
        · exact isSome_of_find? found
        · trivial
  | identity identity =>
      simp only [loginStep]
      split
      · trivial
      · exact sound
  | memberships identity memberships =>
      simp only [loginStep]
      split
      · trivial
      · exact pointSound_buildPrincipal ..
  | _ => exact sound

theorem pointSound_authenticate (token : String) (now : Int)
    (sound : PointSound hash db (.authenticate token now) point)
    : PointSound hash db (.authenticate token now) (authenticateStep hash token now point db) := by
  cases point with
  | asked =>
      simp only [authenticateStep]
      split
      · trivial
      · rename_i present
        split
        · trivial
        · rename_i row found
          split
          · trivial
          · split
            · trivial
            · rename_i current
              have key : row.sessionHash = hash token := (Table.find?_some found).2
              refine ⟨⟨row, by rw [key, found], rfl⟩, ?_⟩
              intro token' now' same
              cases same
              exact ⟨present, key, not_le.mp current⟩
  | session row =>
      simp only [authenticateStep]
      split
      · trivial
      · rename_i identity found
        split
        · trivial
        · split
          · trivial
          · exact ⟨sound.1, sound.2, (Table.find?_some found).2⟩
  | sessionIdentity row identity =>
      simp only [authenticateStep]
      split
      · trivial
      · exact pointSound_buildPrincipal ..
  | _ => exact sound

theorem pointSound_logout (token : String) (now : Int) (sound : PointSound hash db request point)
    : PointSound hash db request (logoutStep hash token now point db).1 := by
  cases point with
  | asked =>
      simp only [logoutStep]
      split
      · trivial
      · split
        · trivial
        · rename_i row found
          split
          · trivial
          · have key : row.sessionHash = hash token := (Table.find?_some found).2
            exact Option.isSome_iff_exists.mpr ⟨row, by rw [key, found]⟩
  | revoke row => trivial
  | _ => exact sound

theorem pointSound_bump (identityId : String) (sound : PointSound hash db request point)
    : PointSound hash db request (bumpStep identityId point db).1 := by
  cases point with
  | asked =>
      simp only [bumpStep]
      split
      · trivial
      · rename_i identity found
        exact isSome_of_find? found
  | version identity rows => trivial
  | _ => exact sound

/-- What the next point of a call has read is stored. One case per call. -/
theorem pointSound_advance (sound : PointSound hash db request point)
    : PointSound hash db request (advance hash request point db).1 := by
  cases request with
  | login credential token now => exact pointSound_login credential token now sound
  | authenticate token now => exact pointSound_authenticate token now sound
  | logout token now => exact pointSound_logout token now sound
  | bump identityId => exact pointSound_bump identityId sound
  | revokeSessions subject now => exact pointSound_revoke false subject now sound
  | deactivate subject now => exact pointSound_revoke true subject now sound
  | revokeCredential credentialId subject now =>
      simp only [advance]
      cases point with
      | asked =>
          simp only [revokeCredentialStep]
          repeat' split
          all_goals trivial
      | credentials hashes => trivial
      | _ => exact sound
  | createIdentity identityId subject credential credentialId tenants expiresAt =>
      simp only [advance]
      cases point with
      | asked =>
          simp only [createIdentity]
          repeat' split
          all_goals trivial
      | _ => exact sound

-- Ended sessions

theorem Grows.unrevoked (grows : Grows before after) {digest : String} {old : SupportSession}
    (was : before.sessions.find? digest = some old)
    (is : after.sessions.find? digest = some session)
    : session = { old with revokedAt := session.revokedAt } := by
  obtain ⟨row, found, same⟩ := grows.sessions digest old was
  obtain rfl := Option.some.inj (is.symm.trans found)
  exact same

/-- Sessions last their time after every step. One case per way to write. -/
theorem RowsSound.written (rows : RowsSound db) (sound : PointSound hash db request point)
    (written : Written hash db request point next)
    : RowsSound next := by
  have grows := written.grows
  have old : ∀ digest row, next.sessions.find? digest = some row →
      (db.sessions.find? digest).isSome = true →
      row.expiresAt = row.issuedAt + sessionTtl
      ∧ (next.identities.find? row.identityId).isSome = true := by
    intro digest row found was
    obtain ⟨before, stored⟩ := Option.isSome_iff_exists.mp was
    obtain ⟨expires, owner⟩ := rows digest before stored
    rw [grows.unrevoked stored found]
    exact ⟨expires, grows.identities _ owner⟩
  intro digest row found
  by_cases was : (db.sessions.find? digest).isSome = true
  · exact old digest row found was
  · have absent : db.sessions.find? digest = none := by simpa using was
    cases written with
    | kept => rw [absent] at found; cases found
    | stored _ _ identity memberships at_ new owner expires sessions inserted =>
        rw [Table.find?_of_insert? inserted] at found
        split at found
        · obtain rfl := Option.some.inj found
          subst at_
          refine ⟨expires, ?_⟩
          rw [owner]
          exact sound
        · rw [absent] at found
          cases found
    | revoked _ session _ _ now =>
        rw [find?_revokeRows, absent] at found
        cases found
    | versioned identity revoked _ deactivates now =>
        have before : (writeVersion identity deactivates db).sessions.find? digest = none := absent
        rw [find?_revokeRows, before] at found
        cases found
    | created => rw [absent] at found; cases found
    | credentials => rw [absent] at found; cases found

theorem isSome_of_ends (sound : PointSound hash db request point)
    (written : Written hash db request point next) {digest : String}
    (ends : digest ∈ endsSessions hash request point db)
    : (db.sessions.find? digest).isSome = true := by
  cases written with
  | kept _ revoked =>
      obtain ⟨row, found, -⟩ := revoked digest ends
      exact Option.isSome_iff_exists.mpr ⟨row, found⟩
  | stored _ none_ => rw [none_] at ends; cases ends
  | revoked _ session at_ one =>
      rw [one, List.mem_singleton] at ends
      subst at_ ends
      exact sound
  | versioned identity rows wrote =>
      simp only [endsSessions, wrote, List.mem_map, List.mem_filter] at ends
      obtain ⟨row, ⟨member, -⟩, rfl⟩ := ends
      exact Option.isSome_iff_exists.mpr ⟨row, Table.find?_of_mem member⟩
  | created _ none_ => rw [none_] at ends; cases ends
  | credentials _ none_ => rw [none_] at ends; cases ends

theorem NoneReturns.kept {ends : List String} (returns : NoneReturns world)
    (rows : RowsSound world.db)
    (known : ∀ digest ∈ world.ended, (world.db.sessions.find? digest).isSome = true)
    (sessions : ∀ digest old session, world.db.sessions.find? digest = some old →
      next.sessions.find? digest = some session → session.revokedAt = none → session = old)
    (identities : ∀ identityId, (world.db.identities.find? identityId).isSome = true →
      next.identities.find? identityId = world.db.identities.find? identityId)
    (revoked : ∀ digest ∈ ends, ∀ session, next.sessions.find? digest = some session →
      session.revokedAt ≠ none)
    : NoneReturns ⟨next, world.ended ++ ends, calls⟩ := by
  intro digest member session found unrevoked identity stored
  rcases List.mem_append.mp member with old | new
  · obtain ⟨row, was⟩ := Option.isSome_iff_exists.mp (known digest old)
    obtain rfl := sessions digest row session was found unrevoked
    rw [identities _ (rows digest session was).2] at stored
    exact returns digest old session was unrevoked identity stored
  · exact absurd unrevoked (revoked digest new session found)

theorem unrevoked_of_revokeRows {hashes : List String} {digest : String}
    (found : (revokeRows hashes now db).sessions.find? digest = some session)
    (unrevoked : session.revokedAt = none)
    : db.sessions.find? digest = some session ∧ session.sessionHash ∉ hashes := by
  rw [find?_revokeRows] at found
  obtain ⟨row, stored, is⟩ := Option.map_eq_some_iff.mp found
  by_cases among : hashes.contains row.sessionHash = true
  · rw [if_pos among] at is
    subst is
    cases unrevoked
  · rw [if_neg among] at is
    subst is
    exact ⟨stored, by simpa using among⟩

theorem noneReturns_writeVersion_iff {rows : List String} {ends : List String}
    (returns : NoneReturns world)
    (stored : (world.db.identities.find? identity.identityId).isSome = true)
    (ended : ends = (world.db.sessions.rows.filter (fun row =>
      row.identityId = identity.identityId)).map (·.sessionHash)) (deactivates : Bool) (now : Int)
    : NoneReturns ⟨revokeRows rows now (writeVersion identity deactivates world.db),
          world.ended ++ ends, calls⟩
      ↔ VersionIsNew world.db identity rows := by
  constructor
  · intro after session member owner unrevoked spared
    have found : world.db.sessions.find? session.sessionHash = some session :=
      Table.find?_of_mem member
    have found' : (revokeRows rows now (writeVersion identity deactivates world.db)).sessions.find?
        session.sessionHash = some session := by
      have before : (writeVersion identity deactivates world.db).sessions.find? session.sessionHash
          = some session := found
      rw [find?_revokeRows, before, Option.map_some, if_neg (by simpa using spared)]
    obtain ⟨old, was⟩ := Option.isSome_iff_exists.mp stored
    have written : (revokeRows rows now
        (writeVersion identity deactivates world.db)).identities.find? session.identityId
        = some { old with
          sessionVersion := identity.sessionVersion + 1
          isActive := old.isActive && !deactivates } := by
      refine (find?_writeVersion identity deactivates world.db session.identityId).trans ?_
      rw [owner, was, Option.map_some, if_pos (Table.find?_some was).2]
    have here : session.sessionHash ∈ world.ended ++ ends := by
      rw [ended]
      refine List.mem_append_right _ (List.mem_map.mpr ⟨session, ?_, rfl⟩)
      exact List.mem_filter.mpr ⟨member, by simpa using owner⟩
    exact (after session.sessionHash here session found' unrevoked _ written).symm
  · intro new digest member session found unrevoked current is
    obtain ⟨was, spared⟩ := unrevoked_of_revokeRows found unrevoked
    have was : world.db.sessions.find? digest = some session := was
    obtain ⟨inside, key⟩ := Table.find?_some was
    have written : (writeVersion identity deactivates world.db).identities.find? session.identityId
        = some current := is
    rw [find?_writeVersion] at written
    obtain ⟨old, wasOld, same⟩ := Option.map_eq_some_iff.mp written
    have owner : old.identityId = session.identityId := (Table.find?_some wasOld).2
    by_cases its : old.identityId = identity.identityId
    · rw [if_pos its] at same
      subst same
      exact (new session inside (owner.symm.trans its) unrevoked spared).symm
    · rw [if_neg its] at same
      subst same
      refine returns digest ?_ session was unrevoked old wasOld
      rcases List.mem_append.mp member with earlier | now_
      · exact earlier
      · rw [ended] at now_
        obtain ⟨row, filtered, hash_⟩ := List.mem_map.mp now_
        obtain ⟨rowInside, rowOwner⟩ := List.mem_filter.mp filtered
        have equal : row = session := Table.eq_of_key rowInside inside (hash_.trans key.symm)
        subst equal
        exact absurd (owner.trans (by simpa using rowOwner)) its

theorem version_of_written {revoked : List String}
    (wrote : writtenVersion request point = some (identity, revoked))
    : ∃ rows, point = .version identity rows := by
  cases point with
  | version read rows =>
      refine ⟨rows, ?_⟩
      cases request with
      | bump identityId =>
          cases wrote
          rfl
      | revokeSessions subject now =>
          cases wrote
          rfl
      | deactivate subject now =>
          cases wrote
          rfl
      | _ => cases wrote
  | _ => cases request <;> cases wrote

/-- No ended session returns through a step, exactly when a version that it writes is new. One case
per way to write.
-/
theorem noneReturns_iff (returns : NoneReturns world) (rows : RowsSound world.db)
    (known : ∀ digest ∈ world.ended, (world.db.sessions.find? digest).isSome = true)
    (sound : PointSound hash world.db request point)
    (written : Written hash world.db request point next)
    : NoneReturns ⟨next, world.ended ++ endsSessions hash request point world.db, calls⟩
      ↔ ∀ identity revoked, writtenVersion request point = some (identity, revoked) →
        VersionIsNew world.db identity revoked := by
  have free : writtenVersion request point = none →
      ∀ identity revoked, writtenVersion request point = some (identity, revoked) →
        VersionIsNew world.db identity revoked := by
    intro no identity revoked wrote
    rw [no] at wrote
    cases wrote
  have same : ∀ (db : Database), db.sessions = world.db.sessions →
      ∀ digest old session, world.db.sessions.find? digest = some old →
      db.sessions.find? digest = some session → session.revokedAt = none → session = old := by
    intro db sessions digest old session was is _
    rw [sessions] at is
    exact Option.some.inj (is.symm.trans was)
  cases written with
  | kept no revoked =>
      refine iff_of_true ?_ (free no)
      refine returns.kept rows known (same _ rfl) (fun _ _ => rfl) ?_
      intro digest ends session found
      obtain ⟨row, was, revoked⟩ := revoked digest ends
      obtain rfl := Option.some.inj (found.symm.trans was)
      exact revoked
  | stored no none_ _ _ _ _ _ _ sessions inserted =>
      refine iff_of_true ?_ (free no)
      rw [none_]
      refine returns.kept rows known ?_ (fun _ _ => rfl) (by simp)
      intro digest old session was is _
      exact Option.some.inj (is.symm.trans (Table.find?_insert?_of_some inserted was))
  | revoked no ending _ one now =>
      refine iff_of_true ?_ (free no)
      rw [one]
      refine returns.kept rows known ?_ (fun _ _ => rfl) ?_
      · intro digest old session was is unrevoked
        exact Option.some.inj ((unrevoked_of_revokeRows is unrevoked).1.symm.trans was)
      · intro digest ends session found unrevoked
        obtain ⟨was, spared⟩ := unrevoked_of_revokeRows found unrevoked
        rw [(Table.find?_some was).2] at spared
        exact spared ends
  | versioned identity revoked wrote deactivates now =>
      have stored : (world.db.identities.find? identity.identityId).isSome = true := by
        obtain ⟨reads, rfl⟩ := version_of_written wrote
        exact sound
      rw [noneReturns_writeVersion_iff returns stored (by simp [endsSessions, wrote])]
      simp [wrote]
  | created no none_ identity identities inserted =>
      refine iff_of_true ?_ (free no)
      rw [none_]
      refine returns.kept rows known (same _ rfl) ?_ (by simp)
      intro identityId is
      obtain ⟨old, was⟩ := Option.isSome_iff_exists.mp is
      rw [was]
      exact Table.find?_insert?_of_some inserted was
  | credentials no none_ =>
      refine iff_of_true ?_ (free no)
      rw [none_]
      exact returns.kept rows known (same _ rfl) (fun _ _ => rfl) (by simp)

-- Authentications

theorem mem_tenantIds_iff (db : Database) (identityId tenant : String)
    : tenant ∈ ((activeMemberships db identityId).map (fun membership =>
          pyStrip membership.tenantId)).filter (fun tenant => tenant ≠ "")
      ↔ ∃ raw, Scoped db identityId raw ∧ pyStrip raw = tenant := by
  rw [List.mem_filter, List.mem_map]
  constructor
  · intro ⟨⟨membership, active, stripped⟩, present⟩
    simp only [activeMemberships, List.mem_filter, Bool.and_eq_true, decide_eq_true_eq] at active
    obtain ⟨member, ⟨owner, on⟩, role⟩ := active
    refine ⟨membership.tenantId, ⟨membership, member, owner, on, role, rfl, ?_⟩, stripped⟩
    rw [stripped]
    simpa using present
  · intro ⟨raw, ⟨membership, member, owner, on, role, its, present⟩, stripped⟩
    refine ⟨⟨membership, ?_, by rw [its, stripped]⟩, ?_⟩
    · simp only [activeMemberships, List.mem_filter, Bool.and_eq_true, decide_eq_true_eq]
      exact ⟨member, ⟨owner, on⟩, role⟩
    · rw [← stripped]
      simpa using present

theorem authenticateStep_unscoped (hash : String → String) (token : String) (now : Int)
    (session : SupportSession) (identity : Identity) (db : Database)
    (unscoped : ¬ ∃ tenant, Scoped db identity.identityId tenant)
    : ∃ error, authenticateStep hash token now (.sessionIdentity session identity) db
        = refuse error := by
  simp only [authenticateStep]
  split
  · exact ⟨_, rfl⟩
  · have none_ : ((activeMemberships db identity.identityId).map (fun membership =>
        pyStrip membership.tenantId)).filter (fun tenant => tenant ≠ "") = [] := by
      rw [List.eq_nil_iff_forall_not_mem]
      intro tenant member
      obtain ⟨raw, inScope, -⟩ := (mem_tenantIds_iff db identity.identityId tenant).mp member
      exact unscoped ⟨raw, inScope⟩
    exact ⟨_, by rw [buildPrincipal, if_pos none_]⟩

theorem authenticateStep_scoped (hash : String → String) (token : String) (now : Int)
    (session : SupportSession) (identity : Identity) (db : Database)
    (inScope : ∃ tenant, Scoped db identity.identityId tenant)
    : ∃ principal, authenticateStep hash token now (.sessionIdentity session identity) db
          = .ended (.principal principal)
        ∧ principal.identityId = identity.identityId
        ∧ ∀ tenant, tenant ∈ principal.tenantIds
          ↔ ∃ raw, Scoped db identity.identityId raw ∧ pyStrip raw = tenant := by
  obtain ⟨raw, its⟩ := inScope
  have member := (mem_tenantIds_iff db identity.identityId (pyStrip raw)).mpr ⟨raw, its, rfl⟩
  have some_ : ((activeMemberships db identity.identityId).map (fun membership =>
      pyStrip membership.tenantId)).filter (fun tenant => tenant ≠ "") ≠ [] :=
    List.ne_nil_of_mem member
  have active : activeMemberships db identity.identityId ≠ [] := by
    intro none_
    rw [none_] at some_
    exact some_ rfl
  simp only [authenticateStep]
  rw [if_neg active, buildPrincipal, if_neg some_]
  exact ⟨_, rfl, rfl, mem_tenantIds_iff db identity.identityId⟩

theorem tenants_exact_iff (db : Database) (identityId : String)
    : (∀ tenant, (∃ raw, Scoped db identityId raw ∧ pyStrip raw = tenant)
        ↔ Scoped db identityId tenant)
      ↔ ∀ tenant, Scoped db identityId tenant → pyStrip tenant = tenant := by
  constructor
  · intro exact_ tenant inScope
    obtain ⟨raw, -, stripped⟩ := (exact_ tenant).mpr inScope
    rw [← stripped, pyStrip_pyStrip]
  · intro clean tenant
    constructor
    · intro ⟨raw, inScope, stripped⟩
      rw [← stripped, clean raw inScope]
      exact inScope
    · exact fun inScope => ⟨tenant, inScope, clean tenant inScope⟩

theorem TokenHolds.still (holds : TokenHolds hash db token now identityId)
    (kept : KeptIn db session) (its : session.sessionHash = hash token)
    : identityId = session.identityId ∧ StillHolds db session := by
  obtain ⟨-, stored, found, unrevoked, -, rfl, identity, owner, active, version⟩ := holds
  obtain ⟨row, is, same⟩ := kept
  rw [its] at is
  obtain rfl := Option.some.inj (found.symm.trans is)
  have fields : stored.identityId = session.identityId
      ∧ stored.sessionVersion = session.sessionVersion := by
    rw [same]
    exact ⟨rfl, rfl⟩
  refine ⟨fields.1, ⟨stored, by rw [its, found], unrevoked⟩, identity, ?_, active, ?_⟩
  · rw [← fields.1, owner]
  · rw [← fields.2, version]

theorem StillHolds.holds (still : StillHolds db session) (kept : KeptIn db session)
    (rows : RowsSound db) (present : token ≠ "") (its : session.sessionHash = hash token)
    (current : now < session.expiresAt)
    : TokenHolds hash db token now session.identityId := by
  obtain ⟨⟨row, found, unrevoked⟩, identity, owner, active, version⟩ := still
  obtain ⟨stored, is, same⟩ := kept
  obtain rfl := Option.some.inj (found.symm.trans is)
  have expires := (rows _ _ found).1
  have fields : row.identityId = session.identityId ∧ row.sessionVersion = session.sessionVersion
      ∧ row.issuedAt = session.issuedAt ∧ row.expiresAt = session.expiresAt := by
    rw [same]
    exact ⟨rfl, rfl, rfl, rfl⟩
  refine ⟨present, row, by rw [← its, found], unrevoked, ?_, fields.1, identity, owner, active, ?_⟩
  · rw [← expires, fields.2.2.2]
    exact current
  · rw [fields.2.1, version]

theorem TokenHolds.not_ended (holds : TokenHolds hash world.db token now identityId)
    (returns : NoneReturns world)
    : hash token ∉ world.ended := by
  intro ended
  obtain ⟨-, stored, found, unrevoked, -, rfl, identity, owner, -, version⟩ := holds
  exact returns _ ended stored found unrevoked identity owner version

theorem refused_of_refuse {error : AuthError} (ended : refuse error = .ended outcome)
    : ∃ error, outcome = .refused error := by
  cases ended
  exact ⟨error, rfl⟩

theorem refused_asked (rows : RowsSound db)
    (ended : authenticateStep hash token now .asked db = .ended outcome)
    : (∃ error, outcome = .refused error) ∧ ¬ Accepted hash db token now := by
  simp only [authenticateStep] at ended
  by_cases present : token = ""
  · rw [if_pos present] at ended
    refine ⟨refused_of_refuse ended, ?_⟩
    rintro ⟨_, holds, _⟩
    exact holds.1 present
  · rw [if_neg present] at ended
    cases found : db.sessions.find? (hash token) with
    | none =>
        simp only [found] at ended
        refine ⟨refused_of_refuse ended, ?_⟩
        rintro ⟨_, ⟨-, session, stored, -⟩, _⟩
        rw [found] at stored
        cases stored
    | some row =>
        simp only [found] at ended
        by_cases revoked : row.revokedAt.isSome = true
        · rw [if_pos revoked] at ended
          refine ⟨refused_of_refuse ended, ?_⟩
          rintro ⟨_, ⟨-, session, stored, unrevoked, -⟩, _⟩
          obtain rfl := Option.some.inj (found.symm.trans stored)
          rw [unrevoked] at revoked
          cases revoked
        · rw [if_neg revoked] at ended
          by_cases over_ : row.expiresAt ≤ now
          · rw [if_pos over_] at ended
            refine ⟨refused_of_refuse ended, ?_⟩
            rintro ⟨_, ⟨-, session, stored, -, current, -⟩, _⟩
            obtain rfl := Option.some.inj (found.symm.trans stored)
            rw [← (rows _ _ found).1] at current
            exact absurd over_ (not_le.mpr current)
          · rw [if_neg over_] at ended
            cases ended

theorem refused_session (kept : KeptIn db session) (its : session.sessionHash = hash token)
    (ended : authenticateStep hash token now (.session session) db = .ended outcome)
    : (∃ error, outcome = .refused error) ∧ ¬ Accepted hash db token now := by
  have still : Accepted hash db token now → StillHolds db session :=
    fun ⟨_, holds, _⟩ => (holds.still kept its).2
  simp only [authenticateStep] at ended
  cases found : db.identities.find? session.identityId with
  | none =>
      simp only [found] at ended
      refine ⟨refused_of_refuse ended, ?_⟩
      intro accepted
      obtain ⟨-, identity, owner, -⟩ := still accepted
      rw [found] at owner
      cases owner
  | some identity =>
      simp only [found] at ended
      by_cases inactive : (!identity.isActive) = true
      · rw [if_pos inactive] at ended
        refine ⟨refused_of_refuse ended, ?_⟩
        intro accepted
        obtain ⟨-, stored, owner, active, -⟩ := still accepted
        obtain rfl := Option.some.inj (found.symm.trans owner)
        rw [active] at inactive
        cases inactive
      · rw [if_neg inactive] at ended
        by_cases stale : session.sessionVersion ≠ identity.sessionVersion
        · rw [if_pos stale] at ended
          refine ⟨refused_of_refuse ended, ?_⟩
          intro accepted
          obtain ⟨-, stored, owner, -, version⟩ := still accepted
          obtain rfl := Option.some.inj (found.symm.trans owner)
          exact stale version.symm
        · rw [if_neg stale] at ended
          cases ended

def StepRight (hash : String → String) (db : Database) (token : String) (now : Int) (late : Bool)
    (reply : Option Outcome)
    : Prop :=
  (∀ principal, reply = some (.principal principal) →
    late = false ∧ TokenHolds hash db token now principal.identityId
    ∧ (∃ tenant, Scoped db principal.identityId tenant)
    ∧ ∀ tenant, tenant ∈ principal.tenantIds ↔ Scoped db principal.identityId tenant)
  ∧ ∀ error, reply = some (.refused error) → ¬ Accepted hash db token now

theorem stepRight_of_none (hash : String → String) (db : Database) (token : String) (now : Int)
    (late : Bool)
    : StepRight hash db token now late none := by
  constructor
  · intro principal same
    cases same
  · intro error same
    cases same

theorem stepRight_of_refused {late : Bool} (refused : ∃ error, outcome = .refused error)
    (not : ¬ Accepted hash db token now)
    : StepRight hash db token now late (some outcome) := by
  obtain ⟨error, rfl⟩ := refused
  constructor
  · intro principal same
    cases same
  · exact fun _ _ => not

theorem stepRight_iff {late : Bool} (returns : NoneReturns world) (rows : RowsSound world.db)
    (sound : PointSound hash world.db (.authenticate token now) point)
    (ended : late = true → hash token ∈ world.ended)
    : StepRight hash world.db token now late
        (outcome? point (authenticateStep hash token now point world.db))
      ↔ ∀ session identity, point = .sessionIdentity session identity →
        (∃ tenant, Scoped world.db identity.identityId tenant) →
          StillHolds world.db session
          ∧ ∀ tenant, Scoped world.db identity.identityId tenant → pyStrip tenant = tenant := by
  cases point with
  | asked =>
      refine iff_of_true ?_ (by simp)
      cases next : authenticateStep hash token now .asked world.db with
      | ended outcome =>
          obtain ⟨refused, not⟩ := refused_asked rows next
          exact stepRight_of_refused refused not
      | _ => exact stepRight_of_none ..
  | session session =>
      refine iff_of_true ?_ (by simp)
      cases next : authenticateStep hash token now (.session session) world.db with
      | ended outcome =>
          obtain ⟨refused, not⟩ := refused_session sound.1 (sound.2 token now rfl).2.1 next
          exact stepRight_of_refused refused not
      | _ => exact stepRight_of_none ..
  | sessionIdentity session identity =>
      obtain ⟨kept, read, owner⟩ := sound
      obtain ⟨present, its, current⟩ := read token now rfl
      simp only [Point.sessionIdentity.injEq, and_imp, forall_apply_eq_imp_iff, forall_eq']
      by_cases inScope : ∃ tenant, Scoped world.db identity.identityId tenant
      · obtain ⟨principal, next, own, tenants⟩ :=
          authenticateStep_scoped hash token now session identity world.db inScope
        have reply : outcome? (.sessionIdentity session identity) (.ended (.principal principal))
            = some (.principal principal) := rfl
        have exact_iff := tenants_exact_iff world.db identity.identityId
        simp only [← tenants] at exact_iff
        rw [next, reply, ← exact_iff]
        constructor
        · intro right _
          obtain ⟨-, holds, -, scopes⟩ := right.1 principal rfl
          refine ⟨(holds.still kept its).2, ?_⟩
          rw [own] at scopes
          exact scopes
        · intro kept_
          obtain ⟨still, scopes⟩ := kept_ inScope
          have holds : TokenHolds hash world.db token now principal.identityId := by
            rw [own, owner]
            exact still.holds kept rows present its current
          constructor
          · intro other same
            obtain rfl := Outcome.principal.inj (Option.some.inj same)
            refine ⟨?_, holds, by rwa [own], by rwa [own]⟩
            exact Bool.eq_false_iff.mpr (fun isLate => holds.not_ended returns (ended isLate))
          · intro error same
            cases same
      · obtain ⟨error, next⟩ :=
          authenticateStep_unscoped hash token now session identity world.db inScope
        rw [next]
        refine iff_of_true (stepRight_of_refused ⟨error, rfl⟩ ?_) (fun is => absurd is inScope)
        intro ⟨identityId, holds, tenant, is⟩
        have same := (holds.still kept its).1
        rw [same, ← owner] at is
        exact inScope ⟨tenant, is⟩
  | _ =>
      refine iff_of_true ?_ (by simp)
      exact stepRight_of_none ..

-- Every interleaving

/-- A world in which no ended session returns and every call has read what is stored. -/
structure SessionsSound (hash : String → String) (world : World) : Prop where
  returns : NoneReturns world
  rows : RowsSound world.db
  known : ∀ digest ∈ world.ended, (world.db.sessions.find? digest).isSome = true
  points : ∀ call ∈ world.calls, PointSound hash world.db call.request call.point
  late : ∀ call ∈ world.calls, call.late = true → ∀ token now,
    call.request = .authenticate token now → hash token ∈ world.ended

theorem supportStep_of_found (hash : String → String) {index : ℕ} {call : SupportCall}
    (found : world.calls[index]? = some call)
    : supportStep hash world (.step index)
      = (outcome? call.point (advance hash call.request call.point world.db).1,
        ⟨(advance hash call.request call.point world.db).2,
          world.ended ++ endsSessions hash call.request call.point world.db,
          world.calls.set index
            { call with point := (advance hash call.request call.point world.db).1 }⟩) := by
  simp [supportStep, found]

theorem sessionsRight_iff (good : SessionsSound hash world) (action : Action)
    : SessionsRight hash
        ⟨world, action, (supportStep hash world action).1, (supportStep hash world action).2⟩
      ↔ SessionsAllowed world action := by
  unfold SessionsRight AuthenticationRight
  dsimp only
  cases action with
  | start request =>
      refine iff_of_true ⟨?_, good.returns⟩ trivial
      intro index call token now same
      cases same
  | changeMemberships memberships =>
      refine iff_of_true ⟨?_, good.returns⟩ trivial
      intro index call token now same
      cases same
  | step index =>
      cases found : world.calls[index]? with
      | none =>
          have unchanged : supportStep hash world (.step index) = (none, world) := by
            simp [supportStep, found]
          rw [unchanged]
          refine iff_of_true ⟨?_, good.returns⟩ ?_
          · intro place call token now same is
            cases same
            rw [found] at is
            cases is
          · intro call is
            rw [found] at is
            cases is
      | some call =>
          have member := List.mem_of_getElem? found
          have sound := good.points call member
          have late := good.late call member
          have stepped := supportStep_of_found hash found
          have returns_iff : NoneReturns (supportStep hash world (.step index)).2
              ↔ ∀ identity revoked,
                writtenVersion call.request call.point = some (identity, revoked) →
                VersionIsNew world.db identity revoked := by
            rw [stepped]
            exact noneReturns_iff good.returns good.rows good.known sound
              (written_advance hash call.request call.point world.db)
          have allowed_iff : SessionsAllowed world (.step index) ↔ CallAllowed world.db call := by
            simp [SessionsAllowed, found]
          rw [allowed_iff, CallAllowed, returns_iff, and_comm]
          refine and_congr_right (fun _ => ?_)
          rw [stepped]
          constructor
          · intro right token now session identity asks at_
            have stepRight : StepRight hash world.db token now call.late
                (outcome? call.point (advance hash call.request call.point world.db).1) :=
              right index call token now rfl found asks
            rw [asks] at stepRight sound
            exact (stepRight_iff good.returns good.rows sound
              (fun isLate => late isLate token now asks)).mp stepRight session identity at_
          · intro ready place other token now same is asks
            cases same
            obtain rfl := Option.some.inj (found.symm.trans is)
            rw [asks] at sound ⊢
            exact (stepRight_iff good.returns good.rows sound
              (fun isLate => late isLate token now asks)).mpr
              (fun session identity at_ => ready token now session identity asks at_)

theorem sessionsSound_step (good : SessionsSound hash world) (action : Action)
    (allowed : SessionsAllowed world action)
    : SessionsSound hash (supportStep hash world action).2 := by
  have right := (sessionsRight_iff good action).mpr allowed
  cases action with
  | changeMemberships memberships =>
      have grows : Grows world.db { world.db with memberships } := .of_eq rfl rfl
      exact ⟨right.2, good.rows, good.known,
        fun call member => (good.points call member).grows grows, good.late⟩
  | start request =>
      refine ⟨right.2, good.rows, good.known, ?_, ?_⟩
      · intro call member
        rcases List.mem_append.mp member with old | new
        · exact good.points call old
        · rw [List.mem_singleton.mp new]
          trivial
      · intro call member isLate_ token now asks
        rcases List.mem_append.mp member with old | new
        · exact good.late call old isLate_ token now asks
        · rw [List.mem_singleton.mp new] at isLate_ asks
          have asked : request = .authenticate token now := asks
          subst asked
          exact List.contains_iff_mem.mp isLate_
  | step index =>
      cases found : world.calls[index]? with
      | none =>
          have unchanged : supportStep hash world (.step index) = (none, world) := by
            simp [supportStep, found]
          rw [unchanged]
          exact good
      | some call =>
          have member := List.mem_of_getElem? found
          have sound := good.points call member
          have written := written_advance hash call.request call.point world.db
          have grows := written.grows
          have stays : ∀ digest, (world.db.sessions.find? digest).isSome = true →
              ((advance hash call.request call.point world.db).2.sessions.find? digest).isSome
                = true := by
            intro digest is
            obtain ⟨row, was⟩ := Option.isSome_iff_exists.mp is
            obtain ⟨row', is', -⟩ := grows.sessions digest row was
            exact Option.isSome_iff_exists.mpr ⟨row', is'⟩
          have returns := right.2
          dsimp only at returns
          rw [supportStep_of_found hash found] at returns ⊢
          refine ⟨returns, good.rows.written sound written, ?_, ?_, ?_⟩
          · intro digest ended
            rcases List.mem_append.mp ended with old | new
            · exact stays digest (good.known digest old)
            · exact stays digest (isSome_of_ends sound written new)
          · intro other within
            rcases List.mem_or_eq_of_mem_set within with old | rfl
            · exact (good.points other old).grows grows
            · exact (pointSound_advance sound).grows grows
          · intro other within isLate_ token now asks
            refine List.mem_append_left _ ?_
            rcases List.mem_or_eq_of_mem_set within with old | rfl
            · exact good.late other old isLate_ token now asks
            · exact good.late call member isLate_ token now asks

/-- Over every interleaving from no rows: the authentications are right and no ended session
returns, exactly when every version that is written is new among the unrevoked sessions of its
identity, and every authentication that finds a scope has a session that still holds.
-/
theorem supportSessions_iff (hash : String → String) (actions : List Action)
    : (∀ visit ∈ visits (supportStep hash) newWorld actions, SessionsRight hash visit)
      ↔ ∀ visit ∈ visits (supportStep hash) newWorld actions,
        SessionsAllowed visit.before visit.call := by
  have exact_ : ∀ world action, SessionsSound hash world → True →
      (SessionsRight hash
          ⟨world, action, (supportStep hash world action).1, (supportStep hash world action).2⟩
        ↔ SessionsAllowed world action) :=
    fun world action good _ => sessionsRight_iff good action
  have preserved : ∀ world action, SessionsSound hash world → True → SessionsAllowed world action →
      SessionsSound hash (supportStep hash world action).2 :=
    fun world action good _ allowed => sessionsSound_step good action allowed
  have start : SessionsSound hash newWorld := by
    refine ⟨?_, ?_, ?_, ?_, ?_⟩
    · intro digest ended
      cases ended
    · intro digest row found
      cases found
    · intro digest ended
      cases ended
    · intro call member
      cases member
    · intro call member
      cases member
  exact throughout_iff exact_ preserved start (fun _ _ => trivial)

/-- Two bumps read one version; the first writes, a login reads what it wrote, and the second bump
writes the same again. Then the session is authenticated.
-/
def lostBump : List Action :=
  [.start (.createIdentity "agent" "ann" "secret" "credential" ["acme"] 10), .step 0,
    .start (.bump "agent"), .start (.bump "agent"), .step 1, .step 2, .step 1,
    .start (.login "secret" "token" 0), .step 3, .step 3, .step 3, .step 3,
    .step 2,
    .start (.authenticate "token" 1), .step 4, .step 4]

/-- The authentication begins after the second bump has written, and succeeds. -/
theorem supportSessions_lostBump
    : ¬ ∀ visit ∈ visits (supportStep id) newWorld (lostBump ++ [.step 4]),
      SessionsRight id visit := by
  intro right
  have last : (⟨finalState (supportStep id) newWorld lostBump, .step 4,
        (supportStep id (finalState (supportStep id) newWorld lostBump) (.step 4)).1,
        (supportStep id (finalState (supportStep id) newWorld lostBump) (.step 4)).2⟩
        : Visit World Action (Option Outcome))
      ∈ visits (supportStep id) newWorld (lostBump ++ [.step 4]) := by
    rw [visits_append]
    exact List.mem_append_right _ List.mem_cons_self
  have begun : ((finalState (supportStep id) newWorld lostBump).calls[4]?).map
      (fun call => (call.request, call.late)) = some (.authenticate "token" 1, true) := by
    decide
  have succeeded : ∃ principal,
      (supportStep id (finalState (supportStep id) newWorld lostBump) (.step 4)).1
        = some (.principal principal) :=
    ⟨_, rfl⟩
  obtain ⟨call, found, is⟩ := Option.map_eq_some_iff.mp begun
  obtain ⟨asks, late⟩ := Prod.mk.inj is
  obtain ⟨principal, reply⟩ := succeeded
  have early := ((right _ last).1 4 call "token" 1 rfl found asks).1 principal reply
  rw [late] at early
  cases early.1

end RomaBridge.Properties
