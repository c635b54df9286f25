import RomaBridge.Foundation.Separated
import Mathlib.Algebra.Order.Ring.Rat

/-! `auth/api_keys.py`: scoped keys by their key ids. A key is found again by the text before its last
underscore; its random suffix is not kept. What nothing reads of a stored key is left out.
-/

namespace RomaBridge.Model.ApiKeys

open RomaBridge.Foundation

def keyPrefix : String := "roma_sk_live_"

def isUrlsafe (c : Char) : Bool := c.isAlphanum || c = '-' || c = '_'

/-- What `secrets.token_urlsafe(32)` returns: 32 bytes in base 64 without padding. -/
structure UrlsafeToken where
  text : String
  length : text.toList.length = 43
  urlsafe : text.toList.all isUrlsafe = true

structure StoredKey where
  keyId : String
  orgId : String
  projectId : String
  permissions : List String
  expiresAt : Option ℚ
  revoked : Bool
  deriving DecidableEq

/-- What `validate_key` tells about a key. -/
structure KeyInfo where
  orgId : String
  projectId : String
  permissions : List String
  deriving DecidableEq

structure APIKeyManager where
  keys : String → Option StoredKey
  counter : ℕ

def APIKeyManager.new : APIKeyManager := ⟨fun _ => none, 0⟩

def makeKeyId (orgId projectId : String) (number : ℕ) : String :=
  "kid_" ++ orgId ++ "_" ++ projectId ++ "_" ++ toString number

def makeKey (keyId suffix : String) : String := keyPrefix ++ keyId ++ "_" ++ suffix

/-- The id that a key is looked up by, `rest.rsplit("_", 1)[0]`; none without the prefix. -/
def lookupId (key : String) : Option String :=
  if keyPrefix.toList.isPrefixOf key.toList then
    some (String.ofList (beforeLast '_' (key.toList.drop keyPrefix.toList.length)))
  else
    none

def StoredKey.info (stored : StoredKey) : KeyInfo :=
  ⟨stored.orgId, stored.projectId, stored.permissions⟩

/-- A stored key is accepted. A time of expiry that is zero is taken for none. -/
def StoredKey.accepted (stored : StoredKey) (now : ℚ) : Bool :=
  !stored.revoked
    && match stored.expiresAt with
      | some expiresAt => expiresAt = 0 || now ≤ expiresAt
      | none => true

def APIKeyManager.lookup (manager : APIKeyManager) (key : String) : Option StoredKey :=
  (lookupId key).bind manager.keys

def APIKeyManager.createKey (manager : APIKeyManager) (orgId projectId : String)
    (permissions : List String) (expiresIn : ℤ) (suffix : UrlsafeToken) (now : ℚ)
    : String × APIKeyManager :=
  let counter := manager.counter + 1
  let keyId := makeKeyId orgId projectId counter
  let stored := {
    keyId, orgId, projectId, permissions
    expiresAt := if expiresIn ≠ 0 then some (now + expiresIn) else none
    revoked := false
  }
  (makeKey keyId suffix.text, ⟨Function.update manager.keys keyId (some stored), counter⟩)

def APIKeyManager.validateKey (manager : APIKeyManager) (key : String) (now : ℚ)
    : Option KeyInfo :=
  match manager.lookup key with
  | some stored => if stored.accepted now then some stored.info else none
  | none => none

def APIKeyManager.revokeKey (manager : APIKeyManager) (key : String) : Bool × APIKeyManager :=
  match lookupId key with
  | none => (false, manager)
  | some keyId =>
      match manager.keys keyId with
      | none => (false, manager)
      | some stored =>
          let keys := Function.update manager.keys keyId (some { stored with revoked := true })
          (true, { manager with keys })

/-- `rotate_key`. The old key stays. -/
def APIKeyManager.rotateKey (manager : APIKeyManager) (oldKey : String) (expiresIn : ℤ)
    (suffix : UrlsafeToken) (now : ℚ) : Option String × APIKeyManager :=
  match manager.validateKey oldKey now with
  | none => (none, manager)
  | some info =>
      let (key, manager) :=
        manager.createKey info.orgId info.projectId info.permissions expiresIn suffix now
      (some key, manager)

end RomaBridge.Model.ApiKeys
