import Mathlib.Algebra.Order.Field.Rat
import RomaBridge.Foundation.Mutex
import RomaBridge.Foundation.Table
import RomaBridge.Foundation.Trace

/-! `gpu_worker/gpu_lock_manager.py`: locks on GPUs with a time to live, in the memory of one
process. Every method is a section of `_mu`, a `threading.Lock`. Datetimes are microseconds; each
`datetime.utcnow()` of a method is a reading of its own.
-/

namespace RomaBridge.Model.GpuLocks

open RomaBridge.Foundation RomaBridge.Foundation.Guarded

structure GPULock where
  gpuId : String
  jobId : String
  acquiredAt : ℤ
  ttlSeconds : ℤ
  deriving DecidableEq, Repr

namespace GPULock

/-- `(now - lock.acquired_at).total_seconds() < ttl`. -/
def youngerThan (lock : GPULock) (ttl : ℤ) (now : ℤ) : Bool :=
  now - lock.acquiredAt < ttl * 1000000

/-- The lock is younger than the time to live it was granted. -/
def unexpired (lock : GPULock) (now : ℤ) : Bool := lock.youngerThan lock.ttlSeconds now

end GPULock

/-- `GPULockManager` without release callbacks. -/
structure GPULockManager where
  locks : Table String GPULock GPULock.gpuId
  defaultTtl : ℤ

/-- `GPULockManager(default_ttl=defaultTtl)`. -/
def newLockManager (defaultTtl : ℤ) : GPULockManager := ⟨Table.empty, defaultTtl⟩

namespace GPULockManager

/-- `ttl or self.default_ttl`. -/
def ttlOrDefault (manager : GPULockManager) (ttl : Option ℤ) : ℤ :=
  match ttl with
  | none => manager.defaultTtl
  | some seconds => if seconds = 0 then manager.defaultTtl else seconds

/-- `self._locks[gpu_id] = GPULock(...)`. -/
def grant (manager : GPULockManager) (gpuId jobId : String) (ttl stored : ℤ) : GPULockManager :=
  { manager with locks := manager.locks.put ⟨gpuId, jobId, stored, ttl⟩ }

/-- `del self._locks[gpu_id]`. -/
def delete (manager : GPULockManager) (gpuId : String) : GPULockManager :=
  { manager with locks := manager.locks.keep (fun lock => lock.gpuId ≠ gpuId) }

/-- `acquire`, with the clock at the check of an existing lock and at the store of the new one. -/
def acquire (manager : GPULockManager) (gpuId jobId : String) (ttl : Option ℤ)
    (checked stored : ℤ)
    : Guarded (Bool × GPULockManager) :=
  withLock <|
    match manager.locks.find? gpuId with
    | some existing =>
        -- The age is compared with the time to live that is asked for, not the granted one.
        if existing.youngerThan (manager.ttlOrDefault ttl) checked then pure (false, manager)
        else pure (true, manager.grant gpuId jobId (manager.ttlOrDefault ttl) stored)
    | none => pure (true, manager.grant gpuId jobId (manager.ttlOrDefault ttl) stored)

def release (manager : GPULockManager) (gpuId : String) : Guarded GPULockManager :=
  withLock (pure (manager.delete gpuId))

def isLocked (manager : GPULockManager) (gpuId : String) (now : ℤ) : Guarded Bool :=
  withLock <|
    match manager.locks.find? gpuId with
    | none => pure false
    | some lock => pure (lock.unexpired now)

/-- `get_lock_holder`, which calls `is_locked` inside its own section. -/
def getLockHolder (manager : GPULockManager) (gpuId : String) (now : ℤ)
    : Guarded (Option String) :=
  withLock <|
    match manager.locks.find? gpuId with
    | none => pure none
    | some lock => do
        let locked ← manager.isLocked gpuId now
        pure (if locked then some lock.jobId else none)

/-- `get_all_locks`, which calls `is_locked` for every lock, each call with its own clock. -/
def getAllLocks (manager : GPULockManager) (now : String → ℤ) : Guarded (List GPULock) :=
  withLock (manager.locks.rows.filterM (fun lock => manager.isLocked lock.gpuId (now lock.gpuId)))

def cleanupExpired (manager : GPULockManager) (now : ℤ)
    : Guarded (List String × GPULockManager) :=
  withLock <| pure
    ((manager.locks.rows.filter (fun lock => !lock.unexpired now)).map GPULock.gpuId,
      { manager with locks := manager.locks.keep (fun lock => lock.unexpired now) })

def forceRelease (manager : GPULockManager) (gpuId jobId : String)
    : Guarded (Bool × GPULockManager) :=
  withLock <|
    match manager.locks.find? gpuId with
    | some lock =>
        if lock.jobId = jobId then pure (true, manager.delete gpuId) else pure (false, manager)
    | none => pure (false, manager)

end GPULockManager

/-- The calls that write `_locks`. -/
inductive LockCall where
  | acquire (gpuId jobId : String) (ttl : Option ℤ) (checked stored : ℤ)
  | release (gpuId : String)
  | forceRelease (gpuId jobId : String)
  | cleanupExpired (now : ℤ)

/-- What a call returns; `blocked` is a call that never does. -/
inductive LockReply where
  | acquired (success : Bool)
  | released
  | forced (success : Bool)
  | cleaned (expired : List String)
  | blocked
  deriving DecidableEq, Repr

/-- One call, as a piece of code under `_mu`. -/
def serve (manager : GPULockManager) : LockCall → Guarded (LockReply × GPULockManager)
  | .acquire gpuId jobId ttl checked stored => do
      let result ← manager.acquire gpuId jobId ttl checked stored
      pure (.acquired result.1, result.2)
  | .release gpuId => do
      let after ← manager.release gpuId
      pure (.released, after)
  | .forceRelease gpuId jobId => do
      let result ← manager.forceRelease gpuId jobId
      pure (.forced result.1, result.2)
  | .cleanupExpired now => do
      let result ← manager.cleanupExpired now
      pure (.cleaned result.1, result.2)

/-- One call by a thread that does not hold `_mu`. -/
def lockStep (manager : GPULockManager) (call : LockCall) : LockReply × GPULockManager :=
  ((serve manager call).call).getD (.blocked, manager)

end RomaBridge.Model.GpuLocks

/-! `gpu_worker/gpu_lock_manager_fast.py`: the lock service. Each handler is one section of `_lock`,
at one reading of the clock; `acquire` reads it again for the expiry.
-/

namespace RomaBridge.Model.GpuLockService

open RomaBridge.Foundation

/-- An entry of `locks`. -/
structure LockEntry where
  gpuId : String
  jobId : String
  expiresAt : ℚ
  deriving DecidableEq, Repr

abbrev Locks := Table String LockEntry LockEntry.gpuId

inductive LockRequest where
  | acquire (gpuId jobId : String) (ttlSeconds : ℤ) (stored : ℚ)
  | release (gpuId jobId : String)
  | status (gpuId : String)
  deriving DecidableEq, Repr

inductive LockAnswer where
  | acquired (gpuId : String) (ttlSeconds : ℤ)
  | released (gpuId : String)
  | locked (jobId : String) (expiresIn : ℚ)
  | unlocked
  | error (statusCode : ℕ) (detail : String)
  deriving DecidableEq, Repr

def acquire (locks : Locks) (now : ℚ) (gpuId jobId : String) (ttlSeconds : ℤ) (stored : ℚ)
    : LockAnswer × Locks :=
  if (locks.find? gpuId).any (fun entry => now < entry.expiresAt && entry.jobId ≠ jobId) then
    (.error 409 "Already locked", locks)
  else (.acquired gpuId ttlSeconds, locks.put ⟨gpuId, jobId, stored + ttlSeconds⟩)

def release (locks : Locks) (gpuId jobId : String) : LockAnswer × Locks :=
  if (locks.find? gpuId).any (fun entry => entry.jobId = jobId) then
    (.released gpuId, locks.keep (fun entry => entry.gpuId ≠ gpuId))
  else (.error 403 "Not owner or not locked", locks)

def status (locks : Locks) (now : ℚ) (gpuId : String) : LockAnswer :=
  match locks.find? gpuId with
  | some entry => .locked entry.jobId (max 0 (entry.expiresAt - now))
  | none => .unlocked

def serve (locks : Locks) (now : ℚ) : LockRequest → LockAnswer × Locks
  | .acquire gpuId jobId ttlSeconds stored => acquire locks now gpuId jobId ttlSeconds stored
  | .release gpuId jobId => release locks gpuId jobId
  | .status gpuId => (status locks now gpuId, locks)

end RomaBridge.Model.GpuLockService
