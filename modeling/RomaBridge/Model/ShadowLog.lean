import Mathlib.Algebra.Order.Ring.Nat

/-! `core/jev_shadow_log.py`: the log file and its numbered backups. A record rotates the files when
the log would grow past its limit, and a file operation that fails ends the rotation, not the record.
-/

namespace RomaBridge.Model.ShadowLog

/-- What `_max_bytes` and `_backups` return; both are positive. -/
structure LogSettings where
  maxBytes : ℕ
  backups : ℕ
  maxBytes_pos : 0 < maxBytes
  backups_pos : 0 < backups

/-- The lines of the log and of its backups, as far as these files exist. -/
structure LogFiles where
  log : Option (List String)
  backup : ℕ → Option (List String)

namespace LogFiles

/-- `if oldest.exists(): oldest.unlink()`. -/
def unlinkOldest (backups : ℕ) (files : LogFiles) : LogFiles :=
  { files with backup := Function.update files.backup backups none }

/-- `if src.exists(): os.replace(src, ...)` of a backup. -/
def replaceBackup (i : ℕ) (files : LogFiles) : LogFiles :=
  match files.backup i with
  | none => files
  | some lines =>
      { files with
        backup := Function.update (Function.update files.backup (i + 1) (some lines)) i none }

/-- `os.replace` of the log, which is there. -/
def replaceLog (files : LogFiles) : LogFiles :=
  match files.log with
  | none => files
  | some lines => { log := none, backup := Function.update files.backup 1 (some lines) }

end LogFiles

/-- `st_size` of a file with some lines. -/
def fileSize (lines : List String) : ℕ := (lines.map String.utf8ByteSize).sum

/-- The loop of `_rotate`, from a backup down to the first. -/
def replaceBackups : ℕ → List (LogFiles → LogFiles)
  | 0 => []
  | i + 1 => LogFiles.replaceBackup (i + 1) :: replaceBackups i

/-- `_rotate`, operation by operation. -/
def rotation (backups : ℕ) : List (LogFiles → LogFiles) :=
  LogFiles.unlinkOldest backups :: replaceBackups (backups - 1) ++ [LogFiles.replaceLog]

/-- `_rotate` when the operation behind `done` others fails, be it the one on the file or the check
that the file exists.
-/
def rotate (backups done : ℕ) (files : LogFiles) : LogFiles :=
  ((rotation backups).take done).foldl (fun files operation => operation files) files

/-- A record: its line, whether `stat` succeeds, and how many operations of a rotation do. -/
structure RecordCall where
  line : String
  stat : Bool
  done : ℕ

def rotateIfNeeded (settings : LogSettings) (files : LogFiles) (call : RecordCall) : LogFiles :=
  match files.log with
  | none => files
  | some lines =>
      if call.stat = false
          ∨ fileSize lines + call.line.utf8ByteSize ≤ settings.maxBytes then files
      else rotate settings.backups call.done files

/-- `record`, with an append that succeeds. -/
def record (settings : LogSettings) (files : LogFiles) (call : RecordCall) : LogFiles :=
  let rotated := rotateIfNeeded settings files call
  { rotated with log := some (rotated.log.getD [] ++ [call.line]) }

def noFiles : LogFiles := ⟨none, fun _ => none⟩

end RomaBridge.Model.ShadowLog
