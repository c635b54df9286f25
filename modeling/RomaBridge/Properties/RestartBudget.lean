import RomaBridge.Foundation.Trace
import RomaBridge.Model.PgWatchdog

/-! The restart budget and the ledger baseline of the watchdog, over any steps and deaths of its
processes. A process keeps both in memory until the end of a round, so the bounds hold when no
process starts from a file that lacks what the ones before it did and saw.
-/

namespace RomaBridge.Properties

open RomaBridge.Foundation RomaBridge.Model.PgWatchdog

/-- The watchdog at a time, with the `start_cluster` calls so far (the stamp noted for each and its
time), the largest row count seen, and the baseline of the last process.
-/
structure WatchedCluster where
  watchdog : Watchdog
  clock : ℚ
  calls : List (ℤ × ℚ)
  largest : Option ℕ
  baseline : Option ℕ

def callsAfter (watched : WatchedCluster) (now : ℚ) : WatchdogStep → List (ℤ × ℚ)
  | .startCluster _ =>
      match watched.watchdog.process with
      | some ⟨state, .starting⟩ => watched.calls ++ [(state.restarts.getLast?.getD 0, now)]
      | _ => watched.calls
  | _ => watched.calls

def observedRows (watchdog : Watchdog) : WatchdogStep → Option ℕ
  | .boot readable rows =>
      match watchdog.process with
      | none => (readState watchdog.file readable).ledgerBaseline.elim rows (fun _ => none)
      | some _ => none
  | .checkLedger rows =>
      match watchdog.process with
      | some ⟨_, .checking⟩ => rows
      | _ => none
  | _ => none

/-- The largest row count after one more may have been seen. -/
def largestAfter (largest : Option ℕ) : Option ℕ → Option ℕ
  | none => largest
  | some rows => some (largest.elim rows (max · rows))

/-- A step that comes some time after the last one. -/
def watchdogStep (watched : WatchedCluster) (timed : ℚ≥0 × WatchdogStep)
    : List WatchdogEvent × WatchedCluster :=
  let now := watched.clock + timed.1
  let (events, watchdog) := watched.watchdog.step now timed.2
  (events, {
    watchdog
    clock := now
    calls := callsAfter watched now timed.2
    largest := largestAfter watched.largest (observedRows watched.watchdog timed.2)
    baseline :=
      match watchdog.process with
      | some process => process.state.ledgerBaseline.join
      | none => watched.baseline
  })

def newWatchdog (clock : ℚ) : WatchedCluster := ⟨⟨none, none⟩, clock, [], none, none⟩

/-- The calls that a window of an hour has. -/
def callsFrom (calls : List (ℤ × ℚ)) (start : ℚ) : ℕ :=
  calls.countP (fun call => start ≤ call.2 && call.2 ≤ start + 3600)

/-- The calls keep to the budget, the baseline does not decrease, and a row count below the largest
one seen is reported.
-/
structure WatchdogRight (visit : Visit WatchedCluster (ℚ≥0 × WatchdogStep) (List WatchdogEvent))
    : Prop where
  budget : ∀ start, callsFrom visit.after.calls start ≤ restartBudgetPerHour
  baseline : ∀ rows ∈ visit.before.baseline, ∃ later ∈ visit.after.baseline, rows ≤ later
  reported : ∀ rows ∈ observedRows visit.before.watchdog visit.call.2,
    ∀ most ∈ visit.before.largest, rows < most →
      ∃ pgUp, .ledgerIntegrityViolation pgUp rows most ∈ visit.reply

def StampsKept (calls : List (ℤ × ℚ)) (now : ℚ) (restarts : List ℤ) : Prop :=
  ((calls.filter (fun call => now - 3600 ≤ call.2)).map Prod.fst).Sublist restarts

/-- A process starts from the stamps of all calls of the last hour and from the largest row count
seen, and the stamp of a call of the last hour is not pruned for its lost fraction of a second.
-/
def NothingForgotten (watched : WatchedCluster) (now : ℚ) : WatchdogStep → Prop
  | .boot readable _ =>
      watched.watchdog.process = none →
        StampsKept watched.calls now (readState watched.watchdog.file readable).restarts
        ∧ (readState watched.watchdog.file readable).ledgerBaseline.join = watched.largest
  | .probe _ => ∀ call ∈ watched.calls, now - 3600 ≤ call.2 → now - 3600 ≤ call.1
  | _ => True

/-- The stamps of a process that have been used. The last one is noted before its call. -/
def usedStamps (process : Process) : List ℤ :=
  match process.phase with
  | .starting => process.state.restarts.dropLast
  | _ => process.state.restarts

structure ProcessKept (calls : List (ℤ × ℚ)) (largest : Option ℕ) (now : ℚ) (process : Process)
    : Prop where
  recorded : StampsKept calls now (usedStamps process)
  room : process.phase = .restarting ∨ process.phase = .starting →
    (usedStamps process).length < restartBudgetPerHour
  noted : process.phase = .starting → process.state.restarts ≠ []
  baseline : process.state.ledgerBaseline = some largest

structure WatchdogKept (watched : WatchedCluster) : Prop where
  budget : ∀ start, callsFrom watched.calls start ≤ restartBudgetPerHour
  baseline : watched.baseline = watched.largest
  process : ∀ process ∈ watched.watchdog.process,
    ProcessKept watched.calls watched.largest watched.clock process

theorem le_largestAfter {largest : Option ℕ} {rows : ℕ} (seen : rows ∈ largest) (more : Option ℕ)
    : ∃ later ∈ largestAfter largest more, rows ≤ later := by
  obtain rfl := Option.mem_def.mp seen
  cases more with
  | none => exact ⟨rows, rfl, le_rfl⟩
  | some more => exact ⟨max rows more, rfl, le_max_left rows more⟩

section Facts

variable {calls : List (ℤ × ℚ)} {now later : ℚ} {restarts : List ℤ}

theorem StampsKept.mono (recorded : StampsKept calls now restarts) (order : now ≤ later)
    : StampsKept calls later restarts := by
  refine .trans (.map _ ?_) recorded
  have fewer : calls.filter (fun call => later - 3600 ≤ call.2)
      = (calls.filter (fun call => now - 3600 ≤ call.2)).filter
          (fun call => later - 3600 ≤ call.2) := by
    rw [List.filter_filter]
    refine List.filter_congr fun call _ => ?_
    have still : later - 3600 ≤ call.2 → now - 3600 ≤ call.2 := fun after => by linarith
    by_cases recent : later - 3600 ≤ call.2 <;> simp [recent, still]
  rw [fewer]
  exact List.filter_sublist

theorem StampsKept.prune (recorded : StampsKept calls now restarts)
    (stamped : ∀ call ∈ calls, now - 3600 ≤ call.2 → now - 3600 ≤ call.1)
    : StampsKept calls now (pruneRestarts now restarts) := by
  have all : ∀ stamp ∈ (calls.filter (fun call => now - 3600 ≤ call.2)).map Prod.fst,
      now - 3600 ≤ (stamp : ℚ) := by
    intro stamp within
    obtain ⟨call, recent, rfl⟩ := List.mem_map.mp within
    rw [List.mem_filter, decide_eq_true_eq] at recent
    exact stamped call recent.1 recent.2
  rw [StampsKept, ← List.filter_eq_self.mpr (fun stamp within => decide_eq_true (all stamp within))]
  exact recorded.filter _

theorem StampsKept.call (recorded : StampsKept calls now restarts) (stamp : ℤ)
    : StampsKept (calls ++ [(stamp, now)]) now (restarts ++ [stamp]) := by
  rw [StampsKept, List.filter_append, List.map_append]
  exact recorded.append (by simp)

theorem StampsKept.budget (recorded : StampsKept calls now restarts)
    (room : restarts.length < restartBudgetPerHour)
    (before : ∀ start, callsFrom calls start ≤ restartBudgetPerHour) (stamp : ℤ) (start : ℚ)
    : callsFrom (calls ++ [(stamp, now)]) start ≤ restartBudgetPerHour := by
  rw [callsFrom, List.countP_append]
  by_cases within : start ≤ now ∧ now ≤ start + 3600
  · have recent : callsFrom calls start ≤ calls.countP (fun call => now - 3600 ≤ call.2) := by
      refine List.countP_mono_left fun call _ inside => ?_
      simp only [Bool.and_eq_true, decide_eq_true_eq] at inside ⊢
      linarith
    have stamps := recorded.length_le
    rw [List.length_map, ← List.countP_eq_length_filter] at stamps
    have one : List.countP (fun call : ℤ × ℚ => start ≤ call.2 && call.2 ≤ start + 3600)
        [(stamp, now)] ≤ 1 := List.countP_le_length
    rw [callsFrom] at recent
    omega
  · have none_ : List.countP (fun call : ℤ × ℚ => start ≤ call.2 && call.2 ≤ start + 3600)
        [(stamp, now)] = 0 := by simpa using within
    rw [none_]
    exact before start

end Facts

section Steps

variable {calls : List (ℤ × ℚ)} {largest : Option ℕ} {now later : ℚ} {state : WatchdogState}
  {phase : Model.PgWatchdog.Phase} {process : Process}

theorem ProcessKept.mono (kept : ProcessKept calls largest now process) (order : now ≤ later)
    : ProcessKept calls largest later process :=
  { kept with recorded := kept.recorded.mono order }

theorem ProcessKept.settled (recorded : StampsKept calls now state.restarts)
    (baseline : state.ledgerBaseline = some largest) (between : phase ≠ .restarting)
    (uncalled : phase ≠ .starting)
    : ProcessKept calls largest now ⟨state, phase⟩ where
  recorded := by cases phase <;> first | exact recorded | exact absurd rfl uncalled
  room starts := by cases starts <;> contradiction
  noted starts := absurd starts uncalled
  baseline := baseline

theorem ProcessKept.probed (kept : ProcessKept calls largest now ⟨state, .probing⟩) (up : Bool)
    (stamped : ∀ call ∈ calls, now - 3600 ≤ call.2 → now - 3600 ≤ call.1)
    : ProcessKept calls largest now (probe now state up).2 := by
  have pruned : StampsKept calls now (pruneRestarts now state.restarts) :=
    kept.recorded.prune stamped
  simp only [probe]
  split
  · split <;> exact .settled pruned kept.baseline nofun nofun
  · split
    · split <;> exact .settled pruned kept.baseline nofun nofun
    · rename_i room
      exact ⟨pruned, fun _ => not_le.mp room, nofun, kept.baseline⟩

theorem ProcessKept.restartNoted (kept : ProcessKept calls largest now ⟨state, .restarting⟩)
    (cleared : Bool) (reason : String)
    : ProcessKept calls largest now (noteRestart now state cleared reason).2 := by
  have used : usedStamps (noteRestart now state cleared reason).2 = state.restarts :=
    List.dropLast_concat
  refine ⟨?_, fun _ => ?_, fun _ => by simp [noteRestart], kept.baseline⟩
  · rw [used]
    exact kept.recorded
  · rw [used]
    exact kept.room (.inl rfl)

theorem ProcessKept.started (kept : ProcessKept calls largest now ⟨state, .starting⟩)
    (started : Bool)
    : ProcessKept (calls ++ [(state.restarts.getLast?.getD 0, now)]) largest now
        ⟨state, .waiting started⟩ := by
  refine .settled ?_ kept.baseline nofun nofun
  have all : usedStamps ⟨state, .starting⟩ ++ [state.restarts.getLast (kept.noted rfl)]
      = state.restarts := List.dropLast_append_getLast _
  have recorded := kept.recorded.call (state.restarts.getLast (kept.noted rfl))
  rw [all] at recorded
  rwa [List.getLast?_eq_some_getLast (kept.noted rfl), Option.getD_some]

theorem ProcessKept.checked (kept : ProcessKept calls largest now ⟨state, .checking⟩)
    (rows : Option ℕ)
    : ProcessKept calls (largestAfter largest rows) now (checkLedger state rows).2
      ∧ ∀ seen ∈ rows, ∀ most ∈ largest, seen < most →
        ∃ pgUp, .ledgerIntegrityViolation pgUp seen most ∈ (checkLedger state rows).1 := by
  have baseline : state.ledgerBaseline.join = largest := by rw [kept.baseline]; rfl
  rw [checkLedger.eq_def, baseline]
  cases rows with
  | none => exact ⟨.settled kept.recorded kept.baseline nofun nofun, nofun⟩
  | some rows =>
      cases largest with
      | none => exact ⟨.settled kept.recorded rfl nofun nofun, nofun⟩
      | some most =>
          rw [largestAfter, Option.elim_some]
          dsimp only
          split
          · rename_i below
            rw [max_eq_left below.le]
            refine ⟨.settled kept.recorded kept.baseline nofun nofun, ?_⟩
            rintro _ ⟨⟩ _ ⟨⟩ _
            exact ⟨state.pgUp, List.mem_singleton_self _⟩
          · rename_i above
            refine ⟨.settled kept.recorded rfl nofun nofun, ?_⟩
            rintro _ ⟨⟩ _ ⟨⟩ below
            exact absurd below above

theorem ProcessKept.booted (recorded : StampsKept calls now state.restarts)
    (known : state.ledgerBaseline.join = largest) (rows : Option ℕ)
    : ProcessKept calls (largestAfter largest (state.ledgerBaseline.elim rows (fun _ => none))) now
        (boot state rows).2 := by
  refine .settled recorded ?_ nofun nofun
  subst known
  cases state.ledgerBaseline with
  | none => cases rows <;> rfl
  | some _ => rfl

theorem ProcessKept.watched (kept : ProcessKept calls largest now process)
    (budget : ∀ start, callsFrom calls start ≤ restartBudgetPerHour) (file : Option WatchdogState)
    : WatchdogKept
        ⟨⟨file, some process⟩, now, calls, largest, process.state.ledgerBaseline.join⟩ :=
  ⟨budget, by rw [kept.baseline]; rfl, by rintro _ ⟨⟩; exact kept⟩

end Steps

theorem WatchdogKept.step {watched : WatchedCluster} (kept : WatchdogKept watched)
    (timed : ℚ≥0 × WatchdogStep)
    (remembered : NothingForgotten watched (watched.clock + timed.1) timed.2)
    : WatchdogKept (watchdogStep watched timed).2
      ∧ ∀ rows ∈ observedRows watched.watchdog timed.2, ∀ most ∈ watched.largest, rows < most →
        ∃ pgUp, .ledgerIntegrityViolation pgUp rows most ∈ (watchdogStep watched timed).1 := by
  obtain ⟨wait, step⟩ := timed
  have later : watched.clock ≤ watched.clock + wait := le_add_of_nonneg_right wait.coe_nonneg
  obtain ⟨⟨file, process⟩, clock, calls, largest, baseline⟩ := watched
  obtain ⟨budget, same, kept⟩ := kept
  obtain rfl : baseline = largest := same
  cases process with
  | none =>
      have stopped : WatchdogKept ⟨⟨file, none⟩, clock + wait, calls, baseline, baseline⟩ :=
        ⟨budget, rfl, nofun⟩
      cases step with
      | boot readable rows =>
          obtain ⟨recorded, known⟩ := remembered rfl
          have booted := ProcessKept.booted recorded known rows
          refine ⟨booted.watched budget file, fun counted at_ most seen => ?_⟩
          -- Rows are counted when there is no baseline, and then none were seen before.
          have absent : (readState file readable).ledgerBaseline = none := by
            cases found : (readState file readable).ledgerBaseline with
            | none => rfl
            | some _ => simp [observedRows, found] at at_
          rw [absent] at known
          exact absurd (known.trans seen) nofun
      | _ => exact ⟨stopped, nofun⟩
  | some process =>
      obtain ⟨state, phase⟩ := process
      have kept := (kept _ rfl).mono later
      have stopped : WatchdogKept ⟨⟨file, none⟩, clock + wait, calls, baseline, baseline⟩ :=
        ⟨budget, rfl, nofun⟩
      have unchanged := kept.watched budget file
      cases phase with
      | probing =>
          cases step with
          | probe up => exact ⟨(kept.probed up remembered).watched budget file, nofun⟩
          | die => exact ⟨stopped, nofun⟩
          | _ => exact ⟨unchanged, nofun⟩
      | restarting =>
          cases step with
          | noteRestart cleared reason =>
              exact ⟨(kept.restartNoted cleared reason).watched budget file, nofun⟩
          | die => exact ⟨stopped, nofun⟩
          | _ => exact ⟨unchanged, nofun⟩
      | starting =>
          cases step with
          | startCluster started =>
              have within := kept.recorded.budget (kept.room (.inr rfl)) budget
              exact ⟨(kept.started started).watched (within _) file, nofun⟩
          | die => exact ⟨stopped, nofun⟩
          | _ => exact ⟨unchanged, nofun⟩
      | waiting started =>
          cases step with
          | waitReady recovered =>
              have settled : ProcessKept calls baseline (clock + wait)
                  (afterWait state started recovered).2 :=
                .settled kept.recorded kept.baseline nofun nofun
              exact ⟨settled.watched budget file, nofun⟩
          | die => exact ⟨stopped, nofun⟩
          | _ => exact ⟨unchanged, nofun⟩
      | checking =>
          cases step with
          | checkLedger rows =>
              obtain ⟨checked, reported⟩ := kept.checked rows
              exact ⟨checked.watched budget file, reported⟩
          | die => exact ⟨stopped, nofun⟩
          | _ => exact ⟨unchanged, nofun⟩
      | writing =>
          cases step with
          | writeState =>
              have settled : ProcessKept calls baseline (clock + wait) ⟨state, .probing⟩ :=
                .settled kept.recorded kept.baseline nofun nofun
              exact ⟨settled.watched budget (some state), nofun⟩
          | die => exact ⟨stopped, nofun⟩
          | _ => exact ⟨unchanged, nofun⟩

/-- The budget, the baseline and the reports hold at every step of a run in which no process starts
without the stamps of the last hour and the largest row count, and no such stamp is pruned.
-/
theorem restart_budget_kept (clock : ℚ) (steps : List (ℚ≥0 × WatchdogStep))
    (remembered : ∀ visit ∈ visits watchdogStep (newWatchdog clock) steps,
      NothingForgotten visit.before (visit.before.clock + visit.call.1) visit.call.2)
    : ∀ visit ∈ visits watchdogStep (newWatchdog clock) steps, WatchdogRight visit := by
  intro visit member
  have kept := (invariant_of_allowed WatchdogKept
    (fun watched timed => NothingForgotten watched (watched.clock + timed.1) timed.2)
    (fun _ timed holds forgets => (holds.step timed forgets).1)
    ⟨fun _ => Nat.zero_le _, rfl, fun _ none_ => by cases none_⟩ remembered).1 visit member
  have step := step_of_mem_visits member
  have reply : (watchdogStep visit.before visit.call).1 = visit.reply := congrArg Prod.fst step
  have after : (watchdogStep visit.before visit.call).2 = visit.after := congrArg Prod.snd step
  refine ⟨kept.2.budget, ?_, reply ▸ (kept.1.step visit.call (remembered visit member)).2⟩
  rw [kept.1.baseline, kept.2.baseline, ← after]
  exact fun rows seen => le_largestAfter seen _

instance (watched : WatchedCluster) (now : ℚ) (step : WatchdogStep)
    : Decidable (NothingForgotten watched now step) :=
  match step with
  | .boot _ _ => inferInstanceAs (Decidable (_ → List.Sublist _ _ ∧ _))
  | .probe _ => inferInstanceAs (Decidable (∀ call ∈ watched.calls, _ → _))
  | .noteRestart _ _ | .startCluster _ | .waitReady _ | .checkLedger _ | .writeState | .die =>
      .isTrue trivial

/-- The process ends after its first round, and the next one reads the file. -/
def rebootedRound : List (ℚ≥0 × WatchdogStep) :=
  [(0, .boot true (some 10)), (1, .probe false), (1, .noteRestart false "no_lock"),
    (0, .startCluster true), (1, .waitReady true), (1, .checkLedger (some 12)), (0, .writeState),
    (9, .die), (9, .boot true none), (1, .probe true), (1, .checkLedger (some 11))]

theorem restart_budget_kept_reboot
    : (∀ visit ∈ visits watchdogStep (newWatchdog 0) rebootedRound,
        NothingForgotten visit.before (visit.before.clock + visit.call.1) visit.call.2)
      ∧ ∀ visit ∈ visits watchdogStep (newWatchdog 0) rebootedRound, WatchdogRight visit := by
  have remembered : ∀ visit ∈ visits watchdogStep (newWatchdog 0) rebootedRound,
      NothingForgotten visit.before (visit.before.clock + visit.call.1) visit.call.2 := by
    decide +kernel
  exact ⟨remembered, restart_budget_kept 0 rebootedRound remembered⟩

/-- A process that is killed when it has called `start_cluster`. -/
def killedRound : List (ℚ≥0 × WatchdogStep) :=
  [(0, .boot true (some 10)), (1, .probe false), (1, .noteRestart false "no_lock"),
    (0, .startCluster false), (30, .die)]

/-- Six processes that are killed so call it six times in four minutes. -/
theorem killed_restarts_forgotten
    : ¬ ∀ visit ∈ visits watchdogStep (newWatchdog 0) (List.replicate 6 killedRound).flatten,
        WatchdogRight visit := by
  intro right
  exact absurd ((right _ (List.mem_of_getElem? (i := 28) rfl)).budget 0) (by decide +kernel)

end RomaBridge.Properties
