import RomaBridge.Foundation.Trace
import RomaBridge.Model.MigrationRunner

/-! Each migration is applied once and atomically, while the filter finds all transaction control of
its text and nothing else. Then a run commits the statements of a file with its name or not at all,
and of two runs the second one fails on the name.
-/

namespace RomaBridge.Properties

open RomaBridge.Foundation RomaBridge.Foundation.SqlText RomaBridge.Model
open RomaBridge.Model.MigrationRunner

variable {statement : Statement} {file : String} {db : Database} {run : ℕ} {session : RunSession}
  {todo : List String}

section Applied

variable (upper : String → String) (effect : Statement → List String → List String)
  (text : String → String)

-- What a database has to keep

def executedFor (file : String) (log : List Entry) : List Statement :=
  log.filterMap (fun entry =>
    match entry with
    | .executed other statement => if other = file then some statement else none
    | .named _ => none)

/-- The statements of a text without its transaction wrappers, in any spelling. -/
def fileStatements (sql : String) : Option (List Statement) :=
  (statements? sql).map (fun statements => statements.filter (fun statement =>
    !isWrapper statement))

def AppliedOnce (db : Database) (file : String) : Prop :=
  (fileStatements (text file) = some (executedFor file db.log)
      ∧ (ledgerNames effect db.log).count file = 1)
    ∨ (executedFor file db.log = [] ∧ file ∉ ledgerNames effect db.log)

-- What a text has to meet

/-- A statement that controls no transaction and leaves the ledger alone. -/
def Applicable (statement : Statement) : Prop :=
  control statement = .plain ∧ ∀ names, effect statement names = names

/-- From where the lexer is, a line that the filter removes leaves it there and is at most a `BEGIN`
or a `COMMIT`; the statements that end on the other lines are applicable.
-/
def Strippable (lexer : Lexer) : List String → Prop
  | [] => ∀ statement ∈ lexer.last, Applicable effect statement
  | line :: rest =>
      (if isTxnWrapperLine upper line then
        (lexer.run (line.toList ++ ['\n'])).1 = lexer
          ∧ ∀ statement ∈ (lexer.run (line.toList ++ ['\n'])).2, isWrapper statement = true
      else
        ∀ statement ∈ (lexer.run (line.toList ++ ['\n'])).2, Applicable effect statement)
      ∧ Strippable (lexer.run (line.toList ++ ['\n'])).1 rest

/-- What Python takes for a line break is one for SQL, and the filter removes the transaction
wrappers of the text and nothing else.
-/
def Clean (sql : String) : Prop :=
  statements? ("\n".intercalate (pySplitLines sql)) = statements? sql
    ∧ Strippable upper effect .start (pySplitLines sql)

/-- A step sends no body to the server whose file is not clean, unless it leaves a quotation or a
comment open.
-/
def SendsClean (db : Database) (call : RunCall) : Prop :=
  ∀ run file todo, call = .advance run .done → (db.sessions run).phase = .between (file :: todo) →
    statements? (stripTxnWrappers upper (text file)) ≠ none → Clean upper effect (text file)

-- The filter

def brokenLines (lines : List String) : List Char :=
  lines.flatMap (fun line => line.toList ++ ['\n'])

/-- Lines that are joined, with a line break at the end. Induction on the lines. -/
theorem intercalate_append_break (line : List Char) (rest : List (List Char))
    : ['\n'].intercalate (line :: rest) ++ ['\n']
      = (line :: rest).flatMap (fun line => line ++ ['\n']) := by
  induction rest generalizing line with
  | nil => simp
  | cons next rest ih =>
      rw [List.intercalate_cons_cons, List.append_assoc, ih next]
      simp

theorem statements_intercalate (lines : List String)
    : statements? ("\n".intercalate lines) = Lexer.start.read (brokenLines lines) := by
  unfold statements? brokenLines
  rw [String.toList_intercalate]
  cases lines with
  | nil => rfl
  | cons line rest =>
      have joined := intercalate_append_break line.toList (rest.map String.toList)
      rw [List.map_cons]
      change Lexer.start.read (['\n'].intercalate (line.toList :: rest.map String.toList) ++ ['\n'])
        = _
      rw [joined]
      simp [List.flatMap_map]

variable {upper effect text}

theorem Applicable.not_wrapper (kept : Applicable effect statement)
    : isWrapper statement = false := by
  unfold isWrapper
  rw [kept.1]

theorem filter_applicable {statements : List Statement}
    (kept : ∀ statement ∈ statements, Applicable effect statement)
    : statements.filter (fun statement => !isWrapper statement) = statements := by
  refine List.filter_eq_self.mpr fun statement member => ?_
  rw [(kept statement member).not_wrapper]
  rfl

/-- What is left of lines that can be stripped are their statements without the wrappers, and all
of them are applicable. Induction on the lines.
-/
theorem read_stripped {lexer : Lexer} {lines : List String}
    (strippable : Strippable upper effect lexer lines)
    : lexer.read (brokenLines (lines.filter (fun line => !isTxnWrapperLine upper line)))
        = (lexer.read (brokenLines lines)).map (fun statements =>
          statements.filter (fun statement => !isWrapper statement))
      ∧ ∀ statements,
        lexer.read (brokenLines (lines.filter (fun line => !isTxnWrapperLine upper line)))
          = some statements →
        ∀ statement ∈ statements, Applicable effect statement := by
  induction lines generalizing lexer with
  | nil =>
      have kept : ∀ statement ∈ lexer.last, Applicable effect statement := strippable
      rw [List.filter_nil, brokenLines, List.flatMap_nil, Lexer.read_nil]
      split
      · refine ⟨?_, ?_⟩
        · rw [Option.map_some, filter_applicable kept]
        · intro statements same
          cases same
          exact kept
      · exact ⟨rfl, by simp⟩
  | cons line rest ih =>
      obtain ⟨here, later⟩ := strippable
      obtain ⟨read, kept⟩ := ih later
      have whole : brokenLines (line :: rest) = (line.toList ++ ['\n']) ++ brokenLines rest := rfl
      rw [whole, Lexer.read_append]
      by_cases wrapper : isTxnWrapperLine upper line = true
      · rw [if_pos wrapper] at here
        obtain ⟨back, wrappers⟩ := here
        rw [back] at read kept ⊢
        rw [List.filter_cons_of_neg (by simp [wrapper])]
        refine ⟨?_, kept⟩
        have none : (lexer.run (line.toList ++ ['\n'])).2.filter
            (fun statement => !isWrapper statement) = [] := by
          refine List.filter_eq_nil_iff.mpr fun statement member => ?_
          simp [wrappers statement member]
        rw [read, Option.map_map]
        refine congrArg (fun f => Option.map f _) (funext fun statements => ?_)
        simp [List.filter_append, none]
      · rw [if_neg wrapper] at here
        rw [List.filter_cons_of_pos (by simpa using wrapper)]
        have left : brokenLines (line :: rest.filter (fun line => !isTxnWrapperLine upper line))
            = (line.toList ++ ['\n'])
              ++ brokenLines (rest.filter (fun line => !isTxnWrapperLine upper line)) := rfl
        rw [left, Lexer.read_append, read]
        refine ⟨?_, ?_⟩
        · rw [Option.map_map, Option.map_map]
          refine congrArg (fun f => Option.map f _) (funext fun statements => ?_)
          simp [List.filter_append, filter_applicable here]
        · intro statements found
          rw [← read] at found
          obtain ⟨tail, foundTail, rfl⟩ := Option.map_eq_some_iff.mp found
          intro statement member
          rcases List.mem_append.mp member with now | after
          · exact here statement now
          · exact kept tail foundTail statement after

theorem Clean.body {sql : String} (clean : Clean upper effect sql)
    : statements? (stripTxnWrappers upper sql) = fileStatements sql
      ∧ ∀ statements, statements? (stripTxnWrappers upper sql) = some statements →
        ∀ statement ∈ statements, Applicable effect statement := by
  obtain ⟨breaks, strippable⟩ := clean
  obtain ⟨read, kept⟩ := read_stripped strippable
  have lines : statements? (stripTxnWrappers upper sql)
      = Lexer.start.read (brokenLines ((pySplitLines sql).filter
        (fun line => !isTxnWrapperLine upper line))) := statements_intercalate _
  rw [lines]
  refine ⟨?_, kept⟩
  rw [read, ← statements_intercalate, breaks]
  rfl

-- The log

theorem ledgerNames_executed {log : List Entry} {done : List Statement}
    (kept : ∀ statement ∈ done, Applicable effect statement)
    : ledgerNames effect (log ++ done.map (Entry.executed file)) = ledgerNames effect log := by
  induction done generalizing log with
  | nil => simp
  | cons statement done ih =>
      have rest : ledgerNames effect (log ++ [.executed file statement]
            ++ done.map (Entry.executed file))
          = ledgerNames effect (log ++ [.executed file statement]) :=
        ih (fun other member => kept other (List.mem_cons_of_mem _ member))
      rw [List.append_assoc] at rest
      rw [List.map_cons]
      refine rest.trans ?_
      simp [ledgerNames, (kept statement List.mem_cons_self).2]

theorem ledgerNames_named (log : List Entry) (file : String)
    : ledgerNames effect (log ++ [.named file]) = ledgerNames effect log ++ [file] := by
  simp [ledgerNames]

theorem executedFor_append (file : String) (first second : List Entry)
    : executedFor file (first ++ second) = executedFor file first ++ executedFor file second :=
  List.filterMap_append

theorem executedFor_executed (file other : String) (done : List Statement)
    : executedFor file (done.map (Entry.executed other)) = if other = file then done else [] := by
  unfold executedFor
  rw [List.filterMap_map]
  by_cases same : other = file
  · subst same
    rw [if_pos rfl]
    simp
  · rw [if_neg same]
    simp [same]

theorem executedFor_named (file other : String) : executedFor file [.named other] = [] := rfl

theorem AppliedOnce.publish {after : Database} {done : List Statement}
    (applied : ∀ file, AppliedOnce effect text db file) (absent : file ∉ ledgerNames effect db.log)
    (whole : fileStatements (text file) = some done)
    (kept : ∀ statement ∈ done, Applicable effect statement)
    (committed : after.log = db.log ++ (done.map (Entry.executed file) ++ [.named file]))
    (other : String)
    : AppliedOnce effect text after other := by
  have names : ledgerNames effect after.log = ledgerNames effect db.log ++ [file] := by
    rw [committed, ← List.append_assoc, ledgerNames_named, ledgerNames_executed kept]
  have statements : executedFor other after.log
      = executedFor other db.log ++ if file = other then done else [] := by
    rw [committed, executedFor_append, executedFor_append, executedFor_executed,
      executedFor_named, List.append_nil]
  unfold AppliedOnce
  rw [names, statements]
  by_cases own : file = other
  · subst own
    have before : executedFor file db.log = [] := by
      rcases applied file with ⟨-, once⟩ | ⟨nothing, -⟩
      · exact absurd (List.count_pos_iff.mp (by omega)) absent
      · exact nothing
    refine .inl ⟨?_, ?_⟩
    · rw [before, if_pos rfl, List.nil_append, whole]
    · rw [List.count_append, List.count_eq_zero_of_not_mem absent]
      simp
  · rw [if_neg own, List.append_nil, List.count_append]
    rcases applied other with ⟨found, once⟩ | ⟨nothing, unnamed⟩
    · exact .inl ⟨found, by rw [once]; simp [own]⟩
    · exact .inr ⟨nothing, by simp [unnamed, Ne.symm own]⟩

-- Sessions

/-- A file of which some statements are done and the others to do. -/
structure FileWork (effect : Statement → List String → List String) (text : String → String)
    (file : String) (done rest : List Statement) : Prop where
  whole : fileStatements (text file) = some (done ++ rest)
  kept : ∀ statement ∈ done ++ rest, Applicable effect statement

/-- What a session did that is not committed: the statements of its file so far, in a block, and at
the end the name.
-/
def WorkRight (effect : Statement → List String → List String) (text : String → String)
    (session : RunSession) : Prop :=
  match session.phase with
  | .ended | .between _ => session.work = []
  | .body file rest _ =>
      session.inBlock = true ∧ ∃ done, FileWork effect text file done rest
        ∧ session.work = done.map (Entry.executed file)
  | .ledger file _ =>
      session.inBlock = true ∧ ∃ done, FileWork effect text file done []
        ∧ session.work = done.map (Entry.executed file)
  | .commit file _ =>
      ∃ done, FileWork effect text file done []
        ∧ session.work = done.map (Entry.executed file) ++ [.named file]

/-- What holds between the steps: two runs do not both wait to commit one name, and it is new. -/
structure SoundRuns (effect : Statement → List String → List String) (text : String → String)
    (db : Database) : Prop where
  applied : ∀ file, AppliedOnce effect text db file
  working : ∀ run, WorkRight effect text (db.sessions run)
  started : ∀ run, (db.sessions run).phase ≠ .ended → run ∈ db.runs
  unnamed : ∀ run file todo, (db.sessions run).phase = .commit file todo →
    file ∉ ledgerNames effect db.log
  alone : ∀ run other file todo otherTodo, (db.sessions run).phase = .commit file todo →
    (db.sessions other).phase = .commit file otherTodo → run = other

theorem session_cases (sessions : ℕ → RunSession) (run other : ℕ) (session : RunSession)
    : (other = run ∧ Function.update sessions run session other = session)
      ∨ (other ≠ run ∧ Function.update sessions run session other = sessions other) := by
  by_cases own : other = run
  · subst own
    exact .inl ⟨rfl, Function.update_self ..⟩
  · exact .inr ⟨own, Function.update_of_ne own ..⟩

/-- A new session of a run keeps what holds between the steps, if it fits to the log, and to the
sessions that wait to commit.
-/
theorem SoundRuns.replace {after : Database} (sound : SoundRuns effect text db)
    (sessions : after.sessions = Function.update db.sessions run session)
    (runs : ∀ other ∈ db.runs, other ∈ after.runs)
    (applied : ∀ file, AppliedOnce effect text after file) (right : WorkRight effect text session)
    (started : session.phase ≠ .ended → run ∈ after.runs)
    (unnamed : ∀ file todo, session.phase = .commit file todo →
      file ∉ ledgerNames effect after.log)
    (others : ∀ other file todo, other ≠ run → (db.sessions other).phase = .commit file todo →
      file ∉ ledgerNames effect after.log ∧ ∀ ownTodo, session.phase ≠ .commit file ownTodo)
    : SoundRuns effect text after := by
  refine ⟨applied, ?_, ?_, ?_, ?_⟩
  · intro other
    rw [sessions]
    rcases session_cases db.sessions run other session with ⟨-, same⟩ | ⟨-, same⟩
    · rw [same]
      exact right
    · rw [same]
      exact sound.working other
  · intro other
    rw [sessions]
    rcases session_cases db.sessions run other session with ⟨rfl, same⟩ | ⟨-, same⟩
    · rw [same]
      exact started
    · rw [same]
      exact fun going => runs other (sound.started other going)
  · intro other file todo
    rw [sessions]
    rcases session_cases db.sessions run other session with ⟨-, same⟩ | ⟨different, same⟩
    · rw [same]
      exact unnamed file todo
    · rw [same]
      exact fun waits => (others other file todo different waits).1
  · intro first second file firstTodo secondTodo
    rw [sessions]
    rcases session_cases db.sessions run first session with ⟨own, same⟩ | ⟨different, same⟩
    · rcases session_cases db.sessions run second session with ⟨own', same'⟩ | ⟨different', same'⟩
      · exact fun _ _ => own.trans own'.symm
      · rw [same, same']
        exact fun waits waits' => absurd waits ((others second file _ different' waits').2 _)
    · rcases session_cases db.sessions run second session with ⟨own', same'⟩ | ⟨different', same'⟩
      · rw [same, same']
        exact fun waits waits' => absurd waits' ((others first file _ different waits).2 _)
      · rw [same, same']
        exact sound.alone first second file firstTodo secondTodo

/-- A session that gets no nearer than to its `INSERT` keeps what holds between the steps. -/
theorem SoundRuns.move (sound : SoundRuns effect text db) (right : WorkRight effect text session)
    (started : session.phase ≠ .ended → run ∈ db.runs)
    (before : ∀ file todo, session.phase ≠ .commit file todo)
    : SoundRuns effect text (db.move run session) :=
  sound.replace rfl (fun _ member => member) sound.applied right started
    (fun file todo waits => absurd waits (before file todo))
    (fun other file todo _ waits => ⟨sound.unnamed other file todo waits, before file⟩)

theorem SoundRuns.leave (sound : SoundRuns effect text db) (run : ℕ)
    : SoundRuns effect text (db.leave run) :=
  sound.move rfl (fun going => absurd rfl going) (fun _ _ waits => by cases waits)

theorem SoundRuns.begin (sound : SoundRuns effect text db) (run : ℕ) (todo : List String)
    : SoundRuns effect text (beginRun db run todo) := by
  unfold beginRun
  split
  · exact sound.replace rfl (fun _ member => List.mem_cons_of_mem _ member) sound.applied rfl
      (fun _ => List.mem_cons_self) (fun _ _ waits => by cases waits)
      (fun other file todo _ waits => ⟨sound.unnamed other file todo waits, by simp⟩)
  · exact sound

theorem SoundRuns.openFile (sound : SoundRuns effect text db) {outcome : Outcome}
    (started : run ∈ db.runs)
    (clean : outcome = .done → statements? (stripTxnWrappers upper (text file)) ≠ none →
      Clean upper effect (text file))
    : SoundRuns effect text (openFile upper text db run file todo outcome) := by
  unfold MigrationRunner.openFile
  split
  · exact sound.leave run
  · rename_i answered
    have done : outcome = .done := by simpa using answered
    split
    · exact sound.leave run
    · exact sound.leave run
    · rename_i statements _ sent
      obtain ⟨whole, kept⟩ := (clean done (by rw [sent]; simp)).body
      refine sound.move ⟨rfl, [], ⟨?_, ?_⟩, rfl⟩ (fun _ => started)
        (fun _ _ waits => by cases waits)
      · rw [← whole]
        exact sent
      · exact kept statements sent

theorem SoundRuns.executeStatement (sound : SoundRuns effect text db) {rest : List Statement}
    (phase : (db.sessions run).phase = .body file (statement :: rest) todo) (outcome : Outcome)
    : SoundRuns effect text (executeStatement db run file statement rest todo outcome) := by
  have working := sound.working run
  unfold WorkRight at working
  rw [phase] at working
  obtain ⟨inBlock, done, ⟨whole, kept⟩, work⟩ := working
  have plain : control statement = .plain := (kept statement (by simp)).1
  unfold MigrationRunner.executeStatement
  simp only [plain]
  split
  · exact sound.leave run
  · refine sound.move ⟨inBlock, done ++ [statement], ⟨?_, ?_⟩, ?_⟩
      (fun _ => sound.started run (by rw [phase]; simp)) (fun _ _ waits => by cases waits)
    · rw [whole, List.append_assoc]
      rfl
    · intro other member
      exact kept other (by simpa using member)
    · dsimp only
      rw [work, List.map_append]
      rfl

theorem SoundRuns.not_held (sound : SoundRuns effect text db) {other : ℕ}
    (free : ¬ nameIsHeld effect db run file = true) (different : other ≠ run)
    : (db.sessions other).phase ≠ .commit file todo := by
  intro waits
  have working := sound.working other
  unfold WorkRight at working
  rw [waits] at working
  obtain ⟨done, filed, work⟩ := working
  refine free (List.any_eq_true.mpr ⟨other, sound.started other (by rw [waits]; simp), ?_⟩)
  have inserted : file ∈ ledgerNames effect (db.log ++ (db.sessions other).work) := by
    rw [work, ← List.append_assoc, ledgerNames_named]
    simp
  simp [different, inserted]

theorem SoundRuns.insertName (sound : SoundRuns effect text db)
    (phase : (db.sessions run).phase = .ledger file todo) (outcome : Outcome)
    : SoundRuns effect text (insertName effect db run file todo outcome) := by
  have working := sound.working run
  unfold WorkRight at working
  rw [phase] at working
  obtain ⟨inBlock, done, filed, work⟩ := working
  unfold MigrationRunner.insertName
  simp only [inBlock, ↓reduceIte]
  split
  · exact sound.leave run
  · rename_i absent
    have fresh : file ∉ ledgerNames effect db.log := by
      rw [not_or, work, ledgerNames_executed
        (fun statement member => filed.kept statement (by simpa using member))] at absent
      exact absent.2
    split
    · exact sound
    · rename_i free
      split
      · exact sound.leave run
      · refine sound.replace rfl (fun _ member => member) sound.applied ⟨done, filed, ?_⟩
          (fun _ => sound.started run (by rw [phase]; simp)) ?_ ?_
        · dsimp only
          rw [work]
        · intro other otherTodo waits
          cases waits
          exact fresh
        · intro other otherFile otherTodo different waits
          refine ⟨sound.unnamed other otherFile otherTodo waits, ?_⟩
          intro ownTodo own
          cases own
          exact sound.not_held free different waits

theorem SoundRuns.published (sound : SoundRuns effect text db)
    (phase : (db.sessions run).phase = .commit file todo) (right : WorkRight effect text session)
    (ended : ∀ file todo, session.phase ≠ .commit file todo)
    : SoundRuns effect text ((db.publish run).move run session) := by
  have working := sound.working run
  unfold WorkRight at working
  rw [phase] at working
  obtain ⟨done, filed, work⟩ := working
  obtain ⟨whole, kept⟩ := filed
  rw [List.append_nil] at whole kept
  have absent := sound.unnamed run file todo phase
  have committed : ((db.publish run).move run session).log
      = db.log ++ (done.map (Entry.executed file) ++ [.named file]) := by
    rw [← work]
    rfl
  refine sound.replace rfl (fun _ member => member)
    (AppliedOnce.publish sound.applied absent whole kept committed) right
    (fun _ => sound.started run (by rw [phase]; simp))
    (fun file todo waits => absurd waits (ended file todo)) ?_
  intro other otherFile otherTodo different waits
  refine ⟨?_, ended otherFile⟩
  rw [committed, ← List.append_assoc, ledgerNames_named, ledgerNames_executed kept]
  intro member
  rcases List.mem_append.mp member with old | new
  · exact sound.unnamed other otherFile otherTodo waits old
  · rw [List.mem_singleton.mp new] at waits
    exact different (sound.alone other run file otherTodo todo waits phase)

theorem SoundRuns.commitWork (sound : SoundRuns effect text db)
    (phase : (db.sessions run).phase = .commit file todo) (outcome : Outcome)
    : SoundRuns effect text (db.commitWork run outcome (.between todo) false) := by
  cases outcome with
  | done => exact sound.published phase rfl (fun _ _ waits => by cases waits)
  | failed => exact sound.leave run
  | lost => exact sound.published phase rfl (fun _ _ waits => by cases waits)

-- Every run

theorem SoundRuns.step {db : Database} (sound : SoundRuns effect text db) {call : RunCall}
    (clean : SendsClean upper effect text db call)
    : SoundRuns effect text (runStep upper effect text db call).2 := by
  cases call with
  | start run files => exact sound.begin run files
  | startPending run files => exact sound.begin run _
  | advance run outcome =>
      change SoundRuns effect text (advanceRun upper effect text db run outcome)
      unfold advanceRun
      cases phase : (db.sessions run).phase with
      | ended => exact sound
      | between todo =>
          cases todo with
          | nil => exact sound.leave run
          | cons file todo =>
              refine sound.openFile (sound.started run (by rw [phase]; simp)) ?_
              rintro rfl
              exact clean run file todo rfl phase
      | body file rest todo =>
          cases rest with
          | cons statement rest => exact sound.executeStatement phase outcome
          | nil =>
              have working := sound.working run
              unfold WorkRight at working
              rw [phase] at working
              obtain ⟨inBlock, done, filed, work⟩ := working
              simp only [inBlock, ↓reduceIte]
              exact sound.move ⟨rfl, done, filed, work⟩
                (fun _ => sound.started run (by rw [phase]; simp)) (fun _ _ waits => by cases waits)
      | ledger file todo => exact sound.insertName phase outcome
      | commit file todo => exact sound.commitWork phase outcome

theorem soundRuns_newDatabase : SoundRuns effect text newDatabase := by
  refine ⟨fun _ => .inr ⟨rfl, by simp [newDatabase, ledgerNames]⟩, fun _ => rfl,
    fun _ going => absurd rfl going, ?_, ?_⟩
  · intro run file todo waits
    cases waits
  · intro run other file todo otherTodo waits
    cases waits

end Applied

/-- In any interleaving of runs that send only clean files, with any outcome of every request, each
file is wholly applied once with its name in the ledger, or not at all and its name is absent.
-/
theorem migrations_applied_once (upper : String → String)
    (effect : Statement → List String → List String) (text : String → String)
    (calls : List RunCall)
    (clean : ∀ visit ∈ visits (runStep upper effect text) newDatabase calls,
      SendsClean upper effect text visit.before visit.call)
    : ∀ visit ∈ visits (runStep upper effect text) newDatabase calls,
      ∀ file, AppliedOnce effect text visit.after file := by
  have sound := invariant_of_allowed (SoundRuns effect text) (SendsClean upper effect text)
    (fun db call sound clean => sound.step clean) soundRuns_newDatabase clean
  intro visit member
  exact (sound.1 visit member).2.applied

def asciiUpper (line : String) : String := String.ofList (line.toList.map Char.toUpper)

def noEffect : Statement → List String → List String := fun _ names => names

theorem applicable_noEffect (plain : control statement = .plain)
    : Applicable noEffect statement :=
  ⟨plain, fun _ => rfl⟩

def wrappedSql : String := "BEGIN;\nDROP TABLE t;\ncommit;\n"

theorem clean_wrappedSql : Clean asciiUpper noEffect wrappedSql := by
  refine ⟨by decide, ?_⟩
  have lines : pySplitLines wrappedSql = ["BEGIN;", "DROP TABLE t;", "commit;"] := by
    decide
  rw [lines]
  refine ⟨?_, ?_, ?_, ?_⟩
  · rw [if_pos (by decide)]
    decide
  · rw [if_neg (by decide)]
    intro statement member
    exact applicable_noEffect (by revert statement; decide)
  · rw [if_pos (by decide)]
    decide
  · intro statement member
    exact applicable_noEffect (by revert statement; decide)

/-- Two runs, each step of one followed by a step of the other. -/
def twoRuns : List RunCall :=
  [.startPending 0 ["001.sql"], .startPending 1 ["001.sql"], .advance 0 .done, .advance 1 .done,
    .advance 0 .done, .advance 1 .done, .advance 0 .done, .advance 1 .done, .advance 0 .done,
    .advance 1 .done, .advance 0 .done, .advance 1 .done]

/-- Two runs of one clean file apply it once. -/
theorem migrations_applied_once_twice
    : (∀ visit ∈ visits (runStep asciiUpper noEffect (fun _ => wrappedSql)) newDatabase twoRuns,
        ∀ file, AppliedOnce noEffect (fun _ => wrappedSql) visit.after file)
      ∧ ledgerNames noEffect (finalState (runStep asciiUpper noEffect (fun _ => wrappedSql))
          newDatabase twoRuns).log = ["001.sql"] :=
  ⟨migrations_applied_once _ _ _ _ (fun _ _ _ _ _ _ _ _ => clean_wrappedSql), by decide +kernel⟩

/-- A file whose `COMMIT` has a comment. -/
def commentedSql : String := "DROP TABLE t;\nCOMMIT; -- all\n"

def procedureSql : String :=
  "CREATE PROCEDURE p() LANGUAGE plpgsql AS $$\nBEGIN\n  COMMIT;\nEND $$;\n"

/-- A `COMMIT` with a comment gets through the filter: when the `INSERT` fails, the statements stay
and the name is absent. From the body of a procedure the filter removes one: what is applied is
another procedure.
-/
theorem commented_commit_gets_through
    : (¬ ∀ visit ∈ visits (runStep asciiUpper noEffect (fun _ => commentedSql)) newDatabase
          [.startPending 0 ["001.sql"], .advance 0 .done, .advance 0 .done, .advance 0 .done,
            .advance 0 .done, .advance 0 .failed],
          ∀ file, AppliedOnce noEffect (fun _ => commentedSql) visit.after file)
      ∧ ¬ ∀ visit ∈ visits (runStep asciiUpper noEffect (fun _ => procedureSql)) newDatabase
          [.startPending 0 ["001.sql"], .advance 0 .done, .advance 0 .done, .advance 0 .done,
            .advance 0 .done, .advance 0 .done],
          ∀ file, AppliedOnce noEffect (fun _ => procedureSql) visit.after file := by
  constructor
  · intro all
    have right := all _ (List.mem_of_getLast? rfl) "001.sql"
    rcases right with ⟨-, named⟩ | ⟨nothing, -⟩
    · exact absurd named (by decide +kernel)
    · exact absurd nothing (by decide +kernel)
  · intro all
    have right := all _ (List.mem_of_getLast? rfl) "001.sql"
    rcases right with ⟨whole, -⟩ | ⟨nothing, -⟩
    · exact absurd whole (by decide +kernel)
    · exact absurd nothing (by decide +kernel)

end RomaBridge.Properties
