import Mathlib.Data.List.Nodup
import RomaBridge.Foundation.Trace

/-! `POST /signup` in `routers/auth.py` with the invites and the capacity of `auth/invites.py`, and
the flag that a verified address sets. Each database call is a transaction of its own; a signup is
numbered, and its number stands for the id of its user.
-/

namespace RomaBridge.Model.Beta

open RomaBridge.Foundation

/-- The columns of `invite_codes` that are read or set; the code itself is unique. -/
structure InviteCode where
  maxUses : ℕ
  usedCount : ℕ
  isActive : Bool
  expiresAt : Option ℕ
  deriving DecidableEq, Repr

/-- A row of `users`, with the code that was presented at its signup, which is no column. -/
structure UserRow where
  id : ℕ
  email : String
  emailVerified : Bool
  presented : Option String
  deriving DecidableEq, Repr

/-- The payload of a signup; the address is stripped and in lower case. -/
structure SignupRequest where
  email : String
  password : String
  inviteCode : Option String
  deriving DecidableEq, Repr

inductive SignupPhase where
  | begun (request : SignupRequest)
  | hasCapacity (request : SignupRequest)
  | invited (request : SignupRequest)
  | free (request : SignupRequest)
  | created (request : SignupRequest)
  | counting (request : SignupRequest) (code : String)
  | finished (request : SignupRequest)
  | refused (statusCode : ℕ) (detail : String)
  deriving DecidableEq, Repr

/-- The settings `BETA_MODE` and `BETA_REQUIRE_INVITE`, the row of `beta_config`, the tables and the
signups. A row of `invite_usage` is a code and a user.
-/
structure BetaStore where
  betaMode : Bool
  requireInvite : Bool
  maxUsers : ℕ
  isActive : Bool
  invites : String → Option InviteCode
  usage : List (String × ℕ)
  users : List UserRow
  distinct : (users.map UserRow.id).Nodup
  signups : ℕ → Option SignupPhase

def countVerifiedUsers (store : BetaStore) : ℕ := store.users.countP UserRow.emailVerified

/-- `check_beta_capacity` in beta mode. -/
def hasBetaCapacity (store : BetaStore) : Bool :=
  store.isActive && countVerifiedUsers store < store.maxUsers

def validateInviteCode (store : BetaStore) (code : String) (now : ℕ) : Option InviteCode :=
  (store.invites code).filter (fun invite =>
    invite.isActive && invite.usedCount < invite.maxUses
      && invite.expiresAt.all (fun expiresAt => now < expiresAt))

/-- The code that a signup presents; an empty one counts as missing. -/
def SignupRequest.presented (request : SignupRequest) : Option String :=
  request.inviteCode.filter (fun code => code != "")

def BetaStore.moveTo (store : BetaStore) (signup : ℕ) (phase : SignupPhase) : BetaStore :=
  { store with signups := Function.update store.signups signup (some phase) }

/-- `create_user_with_password`. A row with the id keeps its flag. -/
def BetaStore.createUser (store : BetaStore) (signup : ℕ) (request : SignupRequest) : BetaStore :=
  if known : signup ∈ store.users.map UserRow.id then
    { store with
      users := store.users.map (fun row =>
        if row.id = signup then { row with email := request.email } else row)
      distinct := by
        have ids : (fun row => UserRow.id (if row.id = signup
            then { row with email := request.email } else row)) = UserRow.id := by
          funext row
          split <;> rfl
        rw [List.map_map, Function.comp_def, ids]
        exact store.distinct }
  else
    { store with
      users := store.users ++ [⟨signup, request.email, false, request.presented⟩]
      distinct := by
        rw [List.map_append, List.nodup_append]
        refine ⟨store.distinct, List.nodup_singleton _, ?_⟩
        intro id mem own ownMem same
        rw [List.map_singleton, List.mem_singleton] at ownMem
        rw [same.trans ownMem] at mem
        exact known mem }

def BetaStore.useInviteCode (store : BetaStore) (code : String) (signup : ℕ) : BetaStore :=
  { store with
    invites := fun other =>
      if other = code then
        (store.invites other).map (fun invite => { invite with usedCount := invite.usedCount + 1 })
      else store.invites other
    usage := store.usage ++ [(code, signup)] }

def BetaStore.deactivate (store : BetaStore) (code : String) : BetaStore :=
  { store with
    invites := fun other =>
      if other = code then
        (store.invites other).map (fun invite => { invite with isActive := false })
      else store.invites other }

/-- A row in the UPDATE that sets or resets `email_verified` of a user. -/
def UserRow.setVerified (user : ℕ) (verified : Bool) (row : UserRow) : UserRow :=
  if row.id = user then { row with emailVerified := verified } else row

theorem UserRow.setVerified_id (user : ℕ) (verified : Bool) (row : UserRow)
    : (row.setVerified user verified).id = row.id := by
  unfold UserRow.setVerified
  split
  · rfl
  · rfl

/-- The UPDATE that sets or resets `email_verified` of a user. -/
def BetaStore.setVerified (store : BetaStore) (user : ℕ) (verified : Bool) : BetaStore :=
  { store with
    users := store.users.map (UserRow.setVerified user verified)
    distinct := by
      have ids : UserRow.id ∘ UserRow.setVerified user verified = UserRow.id :=
        funext (UserRow.setVerified_id user verified)
      rw [List.map_map, ids]
      exact store.distinct }

def payloadError (request : SignupRequest) : Option String :=
  if request.email = "" || request.password = "" then some "Email and password are required"
  else if request.password.length < 8 then some "Password must be at least 8 characters"
  else none

def fullDetail (store : BetaStore) : String :=
  "Beta is currently full. Slots: " ++ toString (countVerifiedUsers store) ++ "/"
    ++ toString store.maxUsers

/-- The next transaction of a signup. -/
def advance (store : BetaStore) (signup now : ℕ) : SignupPhase → BetaStore
  | .begun request =>
      match payloadError request with
      | some detail => store.moveTo signup (.refused 400 detail)
      | none =>
          if store.betaMode && !hasBetaCapacity store then
            store.moveTo signup (.refused 423 (fullDetail store))
          else store.moveTo signup (.hasCapacity request)
  | .hasCapacity request =>
      if store.betaMode && store.requireInvite then
        match request.presented with
        | none => store.moveTo signup (.refused 400 "Invite code is required for beta access")
        | some code =>
            if (validateInviteCode store code now).isNone then
              store.moveTo signup (.refused 400 "Invalid or expired invite code")
            else store.moveTo signup (.invited request)
      else store.moveTo signup (.invited request)
  | .invited request =>
      if store.users.any (fun row => row.email == request.email) then
        store.moveTo signup (.refused 409 "Email already registered")
      else store.moveTo signup (.free request)
  | .free request => (store.createUser signup request).moveTo signup (.created request)
  | .created request =>
      match request.presented with
      | none => store.moveTo signup (.finished request)
      | some code =>
          -- `use_invite` returns False for a code that is no longer valid, and nobody asks.
          if (validateInviteCode store code now).isNone then
            store.moveTo signup (.finished request)
          else store.moveTo signup (.counting request code)
  | .counting request code =>
      (store.useInviteCode code signup).moveTo signup (.finished request)
  | .finished _ => store
  | .refused _ _ => store

/-- A signup arrives, or does its next transaction; an admin deactivates a code; a link verifies a
user, or is given back after a failure.
-/
inductive BetaCall where
  | arrive (signup : ℕ) (request : SignupRequest)
  | advance (signup now : ℕ)
  | deactivate (code : String)
  | verify (user : ℕ)
  | restore (user : ℕ)

def betaStep (store : BetaStore) : BetaCall → Unit × BetaStore
  | .arrive signup request =>
      if (store.signups signup).isSome || store.users.any (fun row => row.id == signup) then
        ((), store)
      else ((), store.moveTo signup (.begun request))
  | .advance signup now =>
      match store.signups signup with
      | none => ((), store)
      | some phase => ((), advance store signup now phase)
  | .deactivate code => ((), store.deactivate code)
  | .verify user => ((), store.setVerified user true)
  | .restore user => ((), store.setVerified user false)

end RomaBridge.Model.Beta
