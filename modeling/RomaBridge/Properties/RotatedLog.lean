import Mathlib.Data.List.Induction
import Mathlib.Order.Nat
import RomaBridge.Model.ShadowLog

/-! What a log and its backups keep, wherever their rotations stop. The backup that an operation
writes is free at that moment, so a rotation drops the lines of the oldest backup and no others, and
the gaps that a stopped rotation leaves are closed by later ones.
-/

namespace RomaBridge.Properties

open RomaBridge.Model.ShadowLog

variable {files : LogFiles}

def backupLines (backup : ℕ → Option (List String)) : ℕ → List String
  | 0 => []
  | i + 1 => (backup (i + 1)).getD [] ++ backupLines backup i

def allLines (backups : ℕ) (files : LogFiles) : List String :=
  backupLines files.backup backups ++ files.log.getD []

theorem backupLines_congr {backup backup' : ℕ → Option (List String)} {top : ℕ}
    (same : ∀ i ≤ top, backup i = backup' i)
    : backupLines backup top = backupLines backup' top := by
  induction top with
  | zero => rfl
  | succ i ih =>
      rw [backupLines, backupLines, same (i + 1) le_rfl, ih (fun j below => same j (by omega))]

theorem allLines_replaceBackup {backups i : ℕ} (bound : i + 1 < backups)
    (free : files.backup (i + 2) = none)
    : allLines backups (files.replaceBackup (i + 1)) = allLines backups files := by
  unfold LogFiles.replaceBackup
  cases found : files.backup (i + 1) with
  | none => rfl
  | some lines =>
      suffices same : ∀ top, i + 2 ≤ top → backupLines (Function.update (Function.update files.backup
          (i + 2) (some lines)) (i + 1) none) top = backupLines files.backup top by
        exact congrArg (· ++ _) (same backups bound)
      intro top above
      induction top, above using Nat.le_induction with
      | base =>
          have below : backupLines (Function.update (Function.update files.backup (i + 2)
              (some lines)) (i + 1) none) i = backupLines files.backup i :=
            backupLines_congr fun j order => by
              rw [Function.update_of_ne (by omega), Function.update_of_ne (by omega)]
          simp [backupLines, below, found, free]
      | succ top above ih =>
          rw [backupLines, backupLines, ih, Function.update_of_ne (by omega),
            Function.update_of_ne (by omega)]

theorem backup_replaceBackup (i : ℕ) : (files.replaceBackup i).backup i = none := by
  unfold LogFiles.replaceBackup
  cases found : files.backup i with
  | none => exact found
  | some lines => exact Function.update_self ..

theorem allLines_unlinkOldest {backups : ℕ} (positive : 0 < backups)
    : allLines backups (files.unlinkOldest backups) <:+ allLines backups files := by
  obtain ⟨i, rfl⟩ := Nat.exists_eq_succ_of_ne_zero positive.ne'
  have below : backupLines (files.unlinkOldest (i + 1)).backup i = backupLines files.backup i :=
    backupLines_congr fun j order => Function.update_of_ne (by omega) ..
  refine ⟨(files.backup (i + 1)).getD [], ?_⟩
  simp [allLines, backupLines, below]
  simp [LogFiles.unlinkOldest]

theorem allLines_replaceLog {backups : ℕ} (positive : 0 < backups) (free : files.backup 1 = none)
    : allLines backups files.replaceLog = allLines backups files := by
  unfold LogFiles.replaceLog
  cases found : files.log with
  | none => rfl
  | some lines =>
      suffices same : ∀ top, 1 ≤ top → backupLines (Function.update files.backup 1 (some lines)) top
          = backupLines files.backup top ++ lines by
        simp [allLines, same backups positive, found]
      intro top above
      induction top, above using Nat.le_induction with
      | base => simp [backupLines, free]
      | succ top above ih =>
          rw [backupLines, backupLines, ih, Function.update_of_ne (by omega), List.append_assoc]

/-- The loop of a rotation and its last operation keep all lines, wherever they stop, when the backup
above the loop is free. Induction on the loop, which frees the backup it leaves.
-/
theorem allLines_replaceBackups {backups : ℕ} (positive : 0 < backups) (top : ℕ) (bound : top < backups)
    (files : LogFiles) (free : files.backup (top + 1) = none) (done : ℕ)
    : allLines backups (((replaceBackups top ++ [LogFiles.replaceLog]).take done).foldl
        (fun files operation => operation files) files) = allLines backups files := by
  induction top generalizing files done with
  | zero =>
      cases done with
      | zero => rfl
      | succ => simpa [replaceBackups] using allLines_replaceLog positive free
  | succ i ih =>
      cases done with
      | zero => rfl
      | succ done =>
          have later := ih (by omega) (files.replaceBackup (i + 1)) (backup_replaceBackup _) done
          rw [allLines_replaceBackup bound free] at later
          simpa [replaceBackups] using later

theorem allLines_rotate {backups : ℕ} (positive : 0 < backups) (done : ℕ) (files : LogFiles)
    : allLines backups (rotate backups done files) <:+ allLines backups files := by
  unfold rotate Model.ShadowLog.rotation
  cases done with
  | zero => exact List.suffix_rfl
  | succ done =>
      have rest := allLines_replaceBackups positive (backups - 1) (by omega)
        (files.unlinkOldest backups)
        (by rw [Nat.sub_add_cancel positive]; exact Function.update_self ..) done
      simpa [rest] using allLines_unlinkOldest positive

theorem allLines_record (settings : LogSettings) (files : LogFiles) (call : RecordCall)
    : allLines settings.backups (record settings files call)
      <:+ allLines settings.backups files ++ [call.line] := by
  have rotated : allLines settings.backups (rotateIfNeeded settings files call)
      <:+ allLines settings.backups files := by
    unfold rotateIfNeeded
    cases files.log with
    | none => exact List.suffix_rfl
    | some lines =>
        simp only
        split
        · exact List.suffix_rfl
        · exact allLines_rotate settings.backups_pos call.done files
  obtain ⟨dropped, split⟩ := rotated
  refine ⟨dropped, ?_⟩
  rw [← split]
  simp [record, allLines]

theorem backupLines_noFiles (top : ℕ) : backupLines noFiles.backup top = [] := by
  induction top with
  | zero => rfl
  | succ i ih => exact ih

theorem rotated_log_keeps_latest (settings : LogSettings) (calls : List RecordCall)
    : allLines settings.backups (calls.foldl (record settings) noFiles)
        <:+ calls.map RecordCall.line
      ∧ ∀ earlier newest, calls = earlier ++ [newest] →
        ∃ front, (calls.foldl (record settings) noFiles).log = some (front ++ [newest.line]) := by
  constructor
  · induction calls using List.reverseRecOn with
    | nil =>
        rw [List.foldl_nil, allLines, backupLines_noFiles]
        exact List.nil_suffix
    | append_singleton earlier newest ih =>
        rw [List.foldl_append, List.map_append]
        exact (allLines_record settings _ newest).trans (List.suffix_append_self_iff.mpr ih)
  · rintro earlier newest rfl
    rw [List.foldl_append]
    exact ⟨_, rfl⟩

end RomaBridge.Properties
