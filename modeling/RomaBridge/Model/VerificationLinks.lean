import RomaBridge.Foundation.System
import RomaBridge.Foundation.Trace

/-! `GET /verify-email` and `POST /resend-verification` in `routers/auth.py` for one account, with
the statements of `db_pg_sync.py`. Tokens are random, so no statement of another account's link
matches its row. Each database call is a transaction that may raise before or after its commit.
-/

namespace RomaBridge.Model.Verification

open RomaBridge.Foundation

/-- The columns of the account in `users` and the digest of its tenant in `tenants`. -/
structure AccountRow where
  emailVerified : Bool
  verificationToken : Option ℕ
  verificationTokenExpiresAt : Option ℕ
  userKeyHash : Option ℕ
  tenantKeyHash : Option ℕ
  deriving DecidableEq, Repr

/-- How far a click has come. After the `SELECT` it carries the token and the expiry that was read.
-/
inductive ClickPhase where
  | started (token : ℕ)
  | selected (token : ℕ) (expiresAt : Option ℕ)
  | consumed (token : ℕ) (expiresAt : Option ℕ)
  | rotated (token : ℕ)
  | rotationFailed (token : ℕ) (expiresAt : Option ℕ)
  | shown
  | failed (statusCode : ℕ) (detail : String)
  | crashed
  deriving DecidableEq, Repr

inductive ResendPhase where
  | started
  | unverified
  | stored
  | answered (status : String)
  | failed
  deriving DecidableEq, Repr

/-- The rows of the account, the token that was stored last by a signup or a resend, the keys that
were shown with the token of the click, the clicks and the resends. A click's number is the key it
makes, a resend's number the token it makes.
-/
structure LinkStore where
  row : AccountRow
  newest : ℕ
  shown : List (ℕ × ℕ)
  clicks : ℕ → Option ClickPhase
  resends : ℕ → Option ResendPhase

/-- The `SELECT` of `consume_verification_token`: the expiry, or nothing when no row has the token.
-/
def selectExpiry (row : AccountRow) (token : ℕ) : Option ℕ :=
  if row.verificationToken = some token then row.verificationTokenExpiresAt else none

/-- The `UPDATE` of `consume_verification_token`. -/
def consumeVerificationToken (row : AccountRow) (token now : ℕ) : Option AccountRow :=
  if row.verificationToken = some token ∧ row.emailVerified = false
      ∧ row.verificationTokenExpiresAt.all (fun expiresAt => now < expiresAt) then
    some { row with
      emailVerified := true
      verificationToken := none
      verificationTokenExpiresAt := none }
  else none

def restoreVerificationToken (row : AccountRow) (token : ℕ) (expiresAt : Option ℕ) : AccountRow :=
  { row with
    emailVerified := false
    verificationToken := some token
    verificationTokenExpiresAt := expiresAt }

def updateVerificationToken (row : AccountRow) (token expiresAt : ℕ) : AccountRow :=
  { row with
    verificationToken := some token
    verificationTokenExpiresAt := some expiresAt }

/-- `rotate_user_api_key`, which sets both digests or none. -/
def rotateUserApiKey (row : AccountRow) (newKey : ℕ) : AccountRow :=
  { row with
    userKeyHash := some newKey
    tenantKeyHash := some newKey }

def LinkStore.moveClick (store : LinkStore) (click : ℕ) (phase : ClickPhase) : LinkStore :=
  { store with clicks := Function.update store.clicks click (some phase) }

def LinkStore.moveResend (store : LinkStore) (token : ℕ) (phase : ResendPhase) : LinkStore :=
  { store with resends := Function.update store.resends token (some phase) }

def LinkStore.withRow (store : LinkStore) (row : AccountRow) : LinkStore := { store with row }

/-- The refusal of a token that is spent, expired or forged. -/
def invalidToken : ClickPhase := .failed 400 "Invalid or expired verification token"

def verificationFailed : ClickPhase := .failed 500 "Verification failed"

/-- The answer to an exception that `verify_email_endpoint` does not catch. -/
def internalError : ClickPhase := .failed 500 "Internal Server Error"

def advanceClick (store : LinkStore) (click now : ℕ) (fault : Fault) : ClickPhase → LinkStore
  | .started token =>
      match fault with
      | .none => store.moveClick click (.selected token (selectExpiry store.row token))
      | _ => store.moveClick click internalError
  | .selected token expiresAt =>
      match consumeVerificationToken store.row token now, fault with
      | none, .none => store.moveClick click invalidToken
      | some row, .none => (store.withRow row).moveClick click (.consumed token expiresAt)
      | some row, .after _ => (store.withRow row).moveClick click internalError
      | _, _ => store.moveClick click internalError
  | .consumed token expiresAt =>
      match fault with
      | .none =>
          (store.withRow (rotateUserApiKey store.row click)).moveClick click (.rotated token)
      | .after _ =>
          (store.withRow (rotateUserApiKey store.row click)).moveClick click
            (.rotationFailed token expiresAt)
      | .before _ => store.moveClick click (.rotationFailed token expiresAt)
  | .rotationFailed token expiresAt =>
      -- An exception of the restore is logged, and the answer is the same.
      if fault.takesEffect then
        (store.withRow (restoreVerificationToken store.row token expiresAt)).moveClick click
          verificationFailed
      else store.moveClick click verificationFailed
  | .rotated token =>
      match fault with
      | .none => { store.moveClick click .shown with shown := store.shown ++ [(token, click)] }
      | _ => store.moveClick click internalError
  | .shown => store
  | .failed _ _ => store
  | .crashed => store

/-- The store after `update_verification_token` of a resend. -/
def LinkStore.issue (store : LinkStore) (token expiresAt : ℕ) : LinkStore :=
  { store with
    row := updateVerificationToken store.row token expiresAt
    newest := token }

/-- The next step of a resend. It stores its token twice: `create_verification` has stored it
already.
-/
def advanceResend (expiry : ℕ → ℕ) (store : LinkStore) (token : ℕ) (fault : Fault)
    : ResendPhase → LinkStore
  | .started =>
      match fault with
      | .none =>
          if store.row.emailVerified then store.moveResend token (.answered "already_verified")
          else store.moveResend token .unverified
      | _ => store.moveResend token .failed
  | .unverified =>
      match fault with
      | .none => (store.issue token (expiry token)).moveResend token .stored
      | .after _ => (store.issue token (expiry token)).moveResend token .failed
      | .before _ => store.moveResend token .failed
  | .stored =>
      match fault with
      | .none => (store.issue token (expiry token)).moveResend token (.answered "sent")
      | .after _ => (store.issue token (expiry token)).moveResend token .failed
      | .before _ => store.moveResend token .failed
  | .answered _ => store
  | .failed => store

def ClickPhase.hasEnded : ClickPhase → Bool
  | .shown | .failed _ _ | .crashed => true
  | _ => false

/-- A click on a link or a resend arrives or does its next step, or the process of a click crashes.
A resend that crashes does no further step.
-/
inductive LinkCall where
  | click (click token : ℕ)
  | advanceClick (click now : ℕ) (fault : Fault)
  | crash (click : ℕ)
  | resend (token : ℕ)
  | advanceResend (token : ℕ) (fault : Fault)

/-- One step; `expiry` is the expiry that a token was made with. -/
def linkStep (expiry : ℕ → ℕ) (store : LinkStore) : LinkCall → Unit × LinkStore
  | .click click token =>
      if (store.clicks click).isSome then ((), store)
      else ((), store.moveClick click (.started token))
  | .advanceClick click now fault =>
      match store.clicks click with
      | none => ((), store)
      | some phase => ((), advanceClick store click now fault phase)
  | .crash click =>
      match store.clicks click with
      | none => ((), store)
      | some phase => if phase.hasEnded then ((), store) else ((), store.moveClick click .crashed)
  | .resend token =>
      if (store.resends token).isSome then ((), store)
      else ((), store.moveResend token .started)
  | .advanceResend token fault =>
      match store.resends token with
      | none => ((), store)
      | some phase => ((), advanceResend expiry store token fault phase)

end RomaBridge.Model.Verification
