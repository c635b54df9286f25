import Mathlib.Algebra.Order.Field.Basic
import Mathlib.Tactic.Linarith
import Mathlib.Data.List.Induction
import Mathlib.Data.String.Basic
import RomaBridge.Model.Backpressure
import RomaBridge.Model.GlobalState

/-! Admission by VRAM, and conflicts between records of the global state. An admission and the start that it
allows are two sections, so the limit holds as long as a job that is started would still be admitted. A
conflict is decided by source alone, and staleness can go in a circle.
-/

namespace RomaBridge.Properties

open RomaBridge.Foundation RomaBridge.Model.Admission

-- One admission

/-- With one more job the use stays within the saturation limit and leaves the reserve free. -/
def Fits (system : BackpressureSystem) (jobVramMb : ℤ) : Prop :=
  ((system.gpuVramUsedMb + jobVramMb : ℤ) : ℚ)
    ≤ system.config.gpuSaturationMax * system.gpuVramAvailableMb
  ∧ jobVramMb ≤ system.availableVram

/-- The recorded use is within the saturation limit and leaves the reserve free. -/
def WithinLimits (system : BackpressureSystem) : Prop := Fits system 0

/-- The divisions of an admission have a result: the capacity is not zero, unless a cooldown keeps
the second one from being reached, and the quotients are floats.
-/
def Divides (system : BackpressureSystem) (jobVramMb : ℤ) (now : ℚ) : Prop :=
  (0 < system.gpuVramAvailableMb →
    trueDiv system.gpuVramUsedMb system.gpuVramAvailableMb ≠ none)
  ∧ (system.cooldownRemaining now ≤ 0 →
    trueDiv (system.gpuVramUsedMb + jobVramMb) system.gpuVramAvailableMb ≠ none)

variable {system : BackpressureSystem} {jobVramMb jobPriority : ℤ} {now later : ℚ}

theorem shouldAdmit_frame (system : BackpressureSystem) (jobVramMb jobPriority : ℤ) (now later : ℚ)
    : (system.shouldAdmit jobVramMb jobPriority now later).2.gpuVramUsedMb = system.gpuVramUsedMb
      ∧ (system.shouldAdmit jobVramMb jobPriority now later).2.gpuVramAvailableMb
        = system.gpuVramAvailableMb
      ∧ (system.shouldAdmit jobVramMb jobPriority now later).2.config = system.config := by
  unfold BackpressureSystem.shouldAdmit
  split
  · exact ⟨rfl, rfl, rfl⟩
  · split
    · exact ⟨rfl, rfl, rfl⟩
    · split
      · exact ⟨rfl, rfl, rfl⟩
      · split
        · exact ⟨rfl, rfl, rfl⟩
        · split
          · exact ⟨rfl, rfl, rfl⟩
          · split
            · exact ⟨rfl, rfl, rfl⟩
            · exact ⟨rfl, rfl, rfl⟩

-- Runs

def AdmissionHolds (run : AdmissionRun) : AdmissionCall → Prop
  | .shouldAdmit _ jobVramMb _ now _ => Divides run.system jobVramMb now
  | .recordJobStart client jobVramMb =>
      (client, jobVramMb) ∈ run.admitted → run.reported = false → Fits run.system jobVramMb
  | _ => True

/-- Until VRAM is reported, the capacity is the one of a new system and the use within its limits.
-/
structure Untouched (run : AdmissionRun) : Prop where
  capacity : run.reported = false → 0 < run.system.gpuVramAvailableMb
  nonneg : run.reported = false → 0 ≤ run.system.gpuVramUsedMb
  within : run.reported = false → WithinLimits run.system

variable {run : AdmissionRun}

theorem Fits.of_le {other : BackpressureSystem} (fits : Fits system jobVramMb)
    (config : other.config = system.config)
    (available : other.gpuVramAvailableMb = system.gpuVramAvailableMb)
    (less : other.gpuVramUsedMb ≤ system.gpuVramUsedMb)
    : Fits other jobVramMb := by
  obtain ⟨below, room⟩ := fits
  refine ⟨?_, ?_⟩
  · rw [config, available]
    refine le_trans ?_ below
    exact_mod_cast Int.add_le_add_right less jobVramMb
  · unfold BackpressureSystem.availableVram at room ⊢
    rw [config, available]
    omega

theorem Untouched.of_same (untouched : Untouched run) {next : AdmissionRun}
    (used : next.system.gpuVramUsedMb = run.system.gpuVramUsedMb)
    (available : next.system.gpuVramAvailableMb = run.system.gpuVramAvailableMb)
    (config : next.system.config = run.system.config) (reported : next.reported = run.reported)
    : Untouched next := by
  refine ⟨?_, ?_, ?_⟩
  · intro unreported
    rw [available]
    exact untouched.capacity (reported ▸ unreported)
  · intro unreported
    rw [used]
    exact untouched.nonneg (reported ▸ unreported)
  · intro unreported
    exact (untouched.within (reported ▸ unreported)).of_le config available used.le

theorem Untouched.recordJobComplete (untouched : Untouched run) (size : ℕ)
    : Untouched { run with system := run.system.recordJobComplete size } := by
  refine ⟨untouched.capacity, fun _ => le_max_left _ _, ?_⟩
  intro unreported
  refine (untouched.within unreported).of_le rfl rfl ?_
  have nonneg := untouched.nonneg unreported
  change max 0 (run.system.gpuVramUsedMb - size) ≤ run.system.gpuVramUsedMb
  omega

theorem withinLimits_recordJobStart_iff (size : ℤ)
    : WithinLimits (system.recordJobStart size) ↔ Fits system size := by
  unfold WithinLimits Fits BackpressureSystem.availableVram BackpressureSystem.recordJobStart
  simp only [add_zero]
  refine and_congr_right (fun _ => ?_)
  constructor
  · intro room
    omega
  · intro room
    omega

theorem Untouched.shouldAdmit (untouched : Untouched run) (client size : ℕ) (priority : ℤ)
    (now later : ℚ)
    : Untouched (admissionStep run (.shouldAdmit client size priority now later)).2 := by
  obtain ⟨used, available, config⟩ :=
    shouldAdmit_frame run.system size priority now later
  simp only [admissionStep]
  cases answer : run.system.shouldAdmit size priority now later with
  | mk verdict next =>
      rw [answer] at used available config
      cases verdict with
      | none => exact untouched.of_same used available config rfl
      | some pair => exact untouched.of_same used available config rfl

theorem Untouched.updateQueueDepth (untouched : Untouched run) (depth : ℤ) (now : ℚ)
    : Untouched (admissionStep run (.updateQueueDepth depth now)).2 := by
  simp only [admissionStep, BackpressureSystem.updateQueueDepth]
  split
  · exact untouched.of_same rfl rfl rfl rfl
  · exact untouched.of_same rfl rfl rfl rfl

theorem Untouched.recordJobStart (untouched : Untouched run) {client size : ℕ}
    (holds : AdmissionHolds run (.recordJobStart client size))
    : Untouched (admissionStep run (.recordJobStart client size)).2 := by
  simp only [admissionStep]
  split
  · rename_i admitted
    refine ⟨untouched.capacity, ?_, ?_⟩
    · intro unreported
      have nonneg := untouched.nonneg unreported
      change 0 ≤ run.system.gpuVramUsedMb + size
      omega
    · intro unreported
      exact (withinLimits_recordJobStart_iff size).mpr (holds admitted unreported)
  · exact untouched

theorem Untouched.step (untouched : Untouched run) (call : AdmissionCall)
    (holds : AdmissionHolds run call)
    : Untouched (admissionStep run call).2 := by
  cases call with
  | shouldAdmit client size priority now later =>
      exact untouched.shouldAdmit client size priority now later
  | recordJobStart client size => exact untouched.recordJobStart holds
  | recordJobComplete client size =>
      simp only [admissionStep]
      split
      · exact ⟨(untouched.recordJobComplete size).capacity,
          (untouched.recordJobComplete size).nonneg, (untouched.recordJobComplete size).within⟩
      · exact untouched
  | updateQueueDepth depth now => exact untouched.updateQueueDepth depth now
  | updateGpuVram used available => exact ⟨by nofun, by nofun, by nofun⟩

section ConflictOrder

open RomaBridge.Model.GlobalState

variable {V : Type} {records : List (GlobalStateRecord V)} {a b c winner : GlobalStateRecord V}

/-- `resolve_conflict` folded over some records. -/
def resolveAll : List (GlobalStateRecord V) → Option (GlobalStateRecord V)
  | [] => none
  | first :: rest => some (rest.foldl resolveConflict first)

def IsTop (records : List (GlobalStateRecord V)) (record : GlobalStateRecord V) : Prop :=
  ∀ other ∈ records, sourceOrder record.source ≤ sourceOrder other.source

/-- The fold finds one record in every order, of the best source and not stale there, and staleness is
transitive.
-/
structure ConflictsResolved (records : List (GlobalStateRecord V)) : Prop where
  anyOrder : ∀ reordered, reordered.Perm records → resolveAll reordered = resolveAll records
  top : ∀ winner, resolveAll records = some winner → winner ∈ records ∧ IsTop records winner
  fresh : ∀ winner, resolveAll records = some winner → ∀ other ∈ records,
    other.source = winner.source → winner.isStale other = false
  transitive : ∀ a ∈ records, ∀ b ∈ records, ∀ c ∈ records, a.isStale b = true →
    b.isStale c = true → a.isStale c = true

/-- The best source has one record. -/
def OneAtTop (records : List (GlobalStateRecord V)) : Prop :=
  ∀ a ∈ records, ∀ b ∈ records, IsTop records a → IsTop records b → a = b

/-- No timestamp of a record without a number lies between those of two records whose timestamps are
not in the order of their numbers.
-/
def ClocksAgree (records : List (GlobalStateRecord V)) : Prop :=
  ∀ p ∈ records, ∀ q ∈ records, ∀ z ∈ records, p.sequence ≠ 0 → q.sequence ≠ 0 → z.sequence = 0 →
    ¬ (p.sequence < q.sequence ∧ q.timestamp < p.timestamp ∧ q.timestamp ≤ z.timestamp
        ∧ z.timestamp ≤ p.timestamp)
    ∧ ¬ (p.sequence = q.sequence ∧ p.timestamp < z.timestamp ∧ z.timestamp < q.timestamp)

-- The winner

theorem resolveAll_concat (records : List (GlobalStateRecord V)) (last : GlobalStateRecord V)
    : resolveAll (records ++ [last])
      = some (((resolveAll records).map (resolveConflict · last)).getD last) := by
  cases records with
  | nil => rfl
  | cons first rest => simp [resolveAll]

theorem winner_spec (resolved : resolveAll records = some winner)
    : winner ∈ records ∧ IsTop records winner := by
  induction records using List.reverseRecOn generalizing winner with
  | nil => cases resolved
  | append_singleton records last ih =>
      rw [resolveAll_concat, Option.some.injEq] at resolved
      cases before : resolveAll records with
      | none =>
          cases records with
          | nil =>
              rw [before] at resolved
              subst resolved
              simp [IsTop]
          | cons => cases before
      | some earlier =>
          obtain ⟨member, top⟩ := ih before
          rw [before, Option.map_some, Option.getD_some, resolveConflict] at resolved
          split at resolved
          · rename_i better
            subst resolved
            refine ⟨List.mem_append_left _ member, fun other found => ?_⟩
            rcases List.mem_append.mp found with old | new
            · exact top other old
            · rw [List.mem_singleton.mp new]
              exact better.le
          · rename_i notBetter
            subst resolved
            refine ⟨by simp, fun other found => ?_⟩
            rcases List.mem_append.mp found with old | new
            · exact (not_lt.mp notBetter).trans (top other old)
            · rw [List.mem_singleton.mp new]

theorem resolveAll_top (top : IsTop records a) : resolveAll (records ++ [a]) = some a := by
  rw [resolveAll_concat, Option.some.injEq]
  cases before : resolveAll records with
  | none => rfl
  | some earlier =>
      exact if_neg (not_lt.mpr (top earlier (winner_spec before).1))

theorem wins_in_some_order (member : a ∈ records) (top : IsTop records a)
    : ∃ reordered, reordered.Perm records ∧ resolveAll reordered = some a := by
  obtain ⟨front, back, rfl⟩ := List.append_of_mem member
  refine ⟨front ++ back ++ [a], ?_, resolveAll_top fun other found => top other ?_⟩
  · rw [List.append_assoc]
    exact List.Perm.append_left front List.perm_append_comm
  · rcases List.mem_append.mp found with left | right
    · exact List.mem_append_left _ left
    · exact List.mem_append_right _ (List.mem_cons_of_mem _ right)

theorem anyOrder_iff
    : (∀ reordered, reordered.Perm records → resolveAll reordered = resolveAll records)
      ↔ OneAtTop records := by
  constructor
  · intro same a memberA b memberB topA topB
    obtain ⟨left, permLeft, winsA⟩ := wins_in_some_order memberA topA
    obtain ⟨right, permRight, winsB⟩ := wins_in_some_order memberB topB
    rw [same left permLeft, ← same right permRight, winsB] at winsA
    exact (Option.some.inj winsA).symm
  · intro one reordered perm
    cases found : resolveAll reordered with
    | none =>
        cases reordered with
        | nil => rw [List.nil_perm.mp perm]; rfl
        | cons => cases found
    | some winner =>
        obtain ⟨member, top⟩ := winner_spec found
        have listed := perm.subset member
        cases found' : resolveAll records with
        | none =>
            cases records with
            | nil => cases listed
            | cons => cases found'
        | some other =>
            obtain ⟨member', top'⟩ := winner_spec found'
            rw [one winner listed other member' (fun item found => top item (perm.symm.subset found))
              top']

theorem isStale_self (record : GlobalStateRecord V) : record.isStale record = false := by
  simp [GlobalStateRecord.isStale]

-- Staleness

theorem isStale_numbered (numbered : a.sequence ≠ 0) (numbered' : b.sequence ≠ 0)
    : a.isStale b = true ↔ a.sequence < b.sequence := by
  simp [GlobalStateRecord.isStale, numbered, numbered']

theorem isStale_timed (unnumbered : a.sequence = 0 ∨ b.sequence = 0)
    : a.isStale b = true ↔ a.timestamp < b.timestamp := by
  rw [GlobalStateRecord.isStale, if_neg (by tauto), decide_eq_true_eq]

/-- Cases on which of the three records have numbers. -/
theorem transitive_iff
    : (∀ a ∈ records, ∀ b ∈ records, ∀ c ∈ records, a.isStale b = true → b.isStale c = true →
        a.isStale c = true)
      ↔ ClocksAgree records := by
  constructor
  · intro transitive p memberP q memberQ z memberZ numberedP numberedQ unnumbered
    constructor
    · intro ⟨before, crossed, above, below⟩
      have stale := (isStale_numbered numberedP numberedQ).mpr before
      rcases lt_or_eq_of_le above with after | same
      · have through := transitive p memberP q memberQ z memberZ stale
          ((isStale_timed (.inr unnumbered)).mpr after)
        exact absurd ((isStale_timed (.inr unnumbered)).mp through) (not_lt.mpr below)
      · have through := transitive z memberZ p memberP q memberQ
          ((isStale_timed (.inl unnumbered)).mpr (same ▸ crossed)) stale
        exact absurd ((isStale_timed (.inl unnumbered)).mp through) (not_lt.mpr above.ge)
    · intro ⟨same, after, before⟩
      have through := transitive p memberP z memberZ q memberQ
        ((isStale_timed (.inr unnumbered)).mpr after) ((isStale_timed (.inl unnumbered)).mpr before)
      exact absurd ((isStale_numbered numberedP numberedQ).mp through) same.not_lt
  · intro agree a memberA b memberB c memberC first second
    by_cases zeroB : b.sequence = 0
    · rw [isStale_timed (.inr zeroB)] at first
      rw [isStale_timed (.inl zeroB)] at second
      by_cases timed : a.sequence = 0 ∨ c.sequence = 0
      · exact (isStale_timed timed).mpr (first.trans second)
      · obtain ⟨numberedA, numberedC⟩ := not_or.mp timed
        refine (isStale_numbered numberedA numberedC).mpr (lt_of_not_ge fun crossed => ?_)
        rcases lt_or_eq_of_le crossed with less | same
        · exact (agree c memberC a memberA b memberB numberedC numberedA zeroB).1
            ⟨less, first.trans second, first.le, second.le⟩
        · exact (agree a memberA c memberC b memberB numberedA numberedC zeroB).2
            ⟨same.symm, first, second⟩
    · by_cases zeroA : a.sequence = 0
      · rw [isStale_timed (.inl zeroA)] at first ⊢
        by_cases zeroC : c.sequence = 0
        · exact first.trans ((isStale_timed (.inr zeroC)).mp second)
        · rw [isStale_numbered zeroB zeroC] at second
          exact lt_of_not_ge fun crossed => (agree b memberB c memberC a memberA zeroB zeroC zeroA).1
            ⟨second, crossed.trans_lt first, crossed, first.le⟩
      · rw [isStale_numbered zeroA zeroB] at first
        by_cases zeroC : c.sequence = 0
        · rw [isStale_timed (.inr zeroC)] at second ⊢
          exact lt_of_not_ge fun crossed => (agree a memberA b memberB c memberC zeroA zeroB zeroC).1
            ⟨first, second.trans_le crossed, second.le, crossed⟩
        · exact (isStale_numbered zeroA zeroC).mpr
            (first.trans ((isStale_numbered zeroB zeroC).mp second))

theorem conflicts_resolved_iff (records : List (GlobalStateRecord V))
    : ConflictsResolved records ↔ OneAtTop records ∧ ClocksAgree records := by
  constructor
  · intro resolved
    exact ⟨anyOrder_iff.mp resolved.anyOrder, transitive_iff.mp resolved.transitive⟩
  · intro ⟨one, agree⟩
    refine ⟨anyOrder_iff.mpr one, fun _ => winner_spec, ?_, transitive_iff.mpr agree⟩
    intro winner resolved other member same
    obtain ⟨listed, top⟩ := winner_spec resolved
    rw [one other member winner listed (by rw [IsTop, same]; exact top) top, isStale_self]

def queuedThenDone : List (GlobalStateRecord String) :=
  [⟨"job-1", "status", "done", .redis, "2026-10-01T12:00:01+00:00", 2, 0⟩,
    ⟨"job-1", "status", "queued", .redis, "2026-10-01T12:00:00+00:00", 1, 0⟩]

/-- The older record wins where it comes last. -/
theorem later_argument_wins
    : ¬ ConflictsResolved queuedThenDone := by
  intro resolved
  have fresh := resolved.fresh _ rfl _ List.mem_cons_self rfl
  exact absurd fresh (by decide)

end ConflictOrder

end RomaBridge.Properties
