import Mathlib.Algebra.Order.Field.Rat
import RomaBridge.Foundation.Trace

/-! `consistency/backpressure.py`: admission by recorded VRAM. Every method is one section of the
lock; an admission and the record of the start that follows it are two.
-/

namespace RomaBridge.Model.Admission

open RomaBridge.Foundation

/-- `a / b` of two integers, exactly instead of the nearest float; `none` raises, because `b` is
zero or the quotient is beyond the floats.
-/
def trueDiv (a b : ℤ) : Option ℚ :=
  if b = 0 then none
  else if (2 ^ 1024 - 2 ^ 970) * b.natAbs ≤ a.natAbs then none
  else some ((a : ℚ) / b)

/-- `int(value)`. -/
def truncate (value : ℚ) : ℤ := value.num.tdiv value.den

/-- The fields of `BackpressureConfig` that are read. -/
structure BackpressureConfig where
  gpuSaturationMax : ℚ
  gpuSaturationWarn : ℚ
  queueDepthMax : ℤ
  vramReserveMb : ℤ
  cooldownSeconds : ℤ

/-- The default thresholds. The first one is the float that `0.90` is. -/
def defaultConfig : BackpressureConfig :=
  { gpuSaturationMax := 8106479329266893 / 9007199254740992
    gpuSaturationWarn := 3 / 4
    queueDepthMax := 100
    vramReserveMb := 512
    cooldownSeconds := 30 }

/-- `BackpressureSystem`; times are seconds. -/
structure BackpressureSystem where
  config : BackpressureConfig
  lastTriggered : Option ℚ
  gpuVramUsedMb : ℤ
  gpuVramAvailableMb : ℤ

/-- What `_get_reason` tells. -/
inductive ThrottleReason where
  | cooldownActive (seconds : ℤ)
  | saturated (saturation : ℚ)
  | warning (saturation : ℚ)
  | ok
  deriving DecidableEq, Repr

/-- The fields of `BackpressureStatus` that `get_status` computes. -/
structure BackpressureStatus where
  gpuSaturation : ℚ
  isThrottling : Bool
  throttleReason : ThrottleReason
  cooldownRemainingSeconds : ℤ

/-- The second component of an answer of `should_admit`. -/
inductive AdmitReason where
  | cooldown (seconds : ℤ)
  | saturation
  | vram (need have_ : ℤ)
  | critical
  | admitted
  deriving DecidableEq, Repr

namespace BackpressureSystem

def new : BackpressureSystem := ⟨defaultConfig, none, 0, 10240⟩

def cooldownRemaining (system : BackpressureSystem) (now : ℚ) : ℤ :=
  match system.lastTriggered with
  | none => 0
  | some triggered => max 0 (system.config.cooldownSeconds - truncate (now - triggered))

/-- The saturation that `get_status` computes; `none` raises. -/
def saturation (system : BackpressureSystem) : Option ℚ :=
  if 0 < system.gpuVramAvailableMb then trueDiv system.gpuVramUsedMb system.gpuVramAvailableMb
  else some 0

/-- `_get_reason`. -/
def reason (system : BackpressureSystem) (saturation : ℚ) (cooldownRemaining : ℤ)
    : ThrottleReason :=
  if 0 < cooldownRemaining then .cooldownActive cooldownRemaining
  else if system.config.gpuSaturationMax < saturation then .saturated saturation
  else if system.config.gpuSaturationWarn < saturation then .warning saturation
  else .ok

/-- `get_status`; `none` raises. -/
def getStatus (system : BackpressureSystem) (now : ℚ) : Option BackpressureStatus :=
  system.saturation.map (fun saturation =>
    { gpuSaturation := saturation
      isThrottling := system.config.gpuSaturationMax < saturation
        || 0 < system.cooldownRemaining now
      throttleReason := system.reason saturation (system.cooldownRemaining now)
      cooldownRemainingSeconds := system.cooldownRemaining now })

def trigger (system : BackpressureSystem) (now : ℚ) : BackpressureSystem :=
  { system with lastTriggered := some now }

/-- The VRAM that a job may take. -/
def availableVram (system : BackpressureSystem) : ℤ :=
  system.gpuVramAvailableMb - system.gpuVramUsedMb - system.config.vramReserveMb

/-- `should_admit` at `now`, which is later when the cooldown is triggered; `none` raises. -/
def shouldAdmit (system : BackpressureSystem) (jobVramMb jobPriority : ℤ) (now later : ℚ)
    : Option (Bool × AdmitReason) × BackpressureSystem :=
  match system.getStatus now with
  | none => (none, system)
  | some status =>
      if 0 < status.cooldownRemainingSeconds then
        (some (false, .cooldown status.cooldownRemainingSeconds), system)
      else
        match trueDiv (system.gpuVramUsedMb + jobVramMb) system.gpuVramAvailableMb with
        | none => (none, system)
        | some postSaturation =>
            if system.config.gpuSaturationMax < postSaturation then
              (some (false, .saturation), system.trigger later)
            else if system.availableVram < jobVramMb then
              (some (false, .vram jobVramMb system.availableVram), system.trigger later)
            else if jobPriority ≤ 1 then (some (true, .critical), system)
            else (some (true, .admitted), system)

def recordJobStart (system : BackpressureSystem) (jobVramMb : ℤ) : BackpressureSystem :=
  { system with gpuVramUsedMb := system.gpuVramUsedMb + jobVramMb }

def recordJobComplete (system : BackpressureSystem) (jobVramMb : ℤ) : BackpressureSystem :=
  { system with gpuVramUsedMb := max 0 (system.gpuVramUsedMb - jobVramMb) }

def updateQueueDepth (system : BackpressureSystem) (depth : ℤ) (now : ℚ) : BackpressureSystem :=
  if system.config.queueDepthMax < depth then system.trigger now else system

def updateGpuVram (system : BackpressureSystem) (usedMb availableMb : ℤ) : BackpressureSystem :=
  { system with gpuVramUsedMb := usedMb, gpuVramAvailableMb := availableMb }

end BackpressureSystem

/-- The system, the jobs that its clients were admitted and did not start yet, the jobs that they
started, and whether the VRAM was ever reported. A job is its client and its size.
-/
structure AdmissionRun where
  system : BackpressureSystem
  admitted : List (ℕ × ℕ)
  started : List (ℕ × ℕ)
  reported : Bool

/-- The calls of the clients and of the monitor. -/
inductive AdmissionCall where
  | shouldAdmit (client jobVramMb : ℕ) (jobPriority : ℤ) (now later : ℚ)
  | recordJobStart (client jobVramMb : ℕ)
  | recordJobComplete (client jobVramMb : ℕ)
  | updateQueueDepth (depth : ℤ) (now : ℚ)
  | updateGpuVram (usedMb availableMb : ℤ)

inductive AdmissionReply where
  | verdict (admits : Bool) (reason : AdmitReason)
  | raised
  | recorded
  deriving DecidableEq, Repr

def admissionStep (run : AdmissionRun) : AdmissionCall → AdmissionReply × AdmissionRun
  | .shouldAdmit client jobVramMb jobPriority now later =>
      match run.system.shouldAdmit jobVramMb jobPriority now later with
      | (none, next) => (.raised, { run with system := next })
      | (some (admits, reason), next) =>
          (.verdict admits reason, { run with
            system := next
            admitted := if admits then run.admitted ++ [(client, jobVramMb)] else run.admitted })
  | .recordJobStart client jobVramMb =>
      if (client, jobVramMb) ∈ run.admitted then
        (.recorded, { run with
          system := run.system.recordJobStart jobVramMb
          admitted := run.admitted.erase (client, jobVramMb)
          started := run.started ++ [(client, jobVramMb)] })
      else (.recorded, run)
  | .recordJobComplete client jobVramMb =>
      if (client, jobVramMb) ∈ run.started then
        (.recorded, { run with
          system := run.system.recordJobComplete jobVramMb
          started := run.started.erase (client, jobVramMb) })
      else (.recorded, run)
  | .updateQueueDepth depth now =>
      (.recorded, { run with system := run.system.updateQueueDepth depth now })
  | .updateGpuVram usedMb availableMb =>
      (.recorded, { run with
        system := run.system.updateGpuVram usedMb availableMb
        reported := true })

end RomaBridge.Model.Admission
