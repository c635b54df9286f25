import RomaBridge.Foundation.SqlText
import RomaBridge.Model.PyValues

/-! `scripts/apply_migrations.py` and the line filter of `scripts/run_migrations.py`: runs that
apply migration files, each statement a step, over sessions of one PostgreSQL database. What a
session writes outside of a transaction block is committed with the message it came in.
-/

namespace RomaBridge.Model.MigrationRunner

open RomaBridge.Foundation.SqlText

/-- What a committed transaction did: a statement of a file, or the file's row in
`schema_migrations`.
-/
inductive Entry where
  | executed (file : String) (statement : Statement)
  | named (file : String)

/-- How far a run is: at the top of the loop, in the body of a file, before its `INSERT` or before
its `commit`.
-/
inductive RunPhase where
  | ended
  | between (todo : List String)
  | body (file : String) (rest : List Statement) (todo : List String)
  | ledger (file : String) (todo : List String)
  | commit (file : String) (todo : List String)

/-- The connection of a run: whether a transaction block is open, and what is not committed. -/
structure RunSession where
  phase : RunPhase
  inBlock : Bool
  work : List Entry

/-- A database, with the runs that were started. -/
structure Database where
  log : List Entry
  sessions : ℕ → RunSession
  runs : List ℕ

/-- How a request to the server ends: done, failed, or done with the answer lost. -/
inductive Outcome where
  | done
  | failed
  | lost
  deriving DecidableEq

/-- A step: the start of a run, or the next request of one. -/
inductive RunCall where
  | start (run : ℕ) (files : List String)
  | startPending (run : ℕ) (files : List String)
  | advance (run : ℕ) (outcome : Outcome)

-- The line filter

section Filter

variable (upper : String → String)

/-- The lines that the filter removes. -/
def isTxnWrapperLine (line : String) : Bool :=
  upper (pyStrip line) = "BEGIN;" || upper (pyStrip line) = "COMMIT;"

/-- `_strip_txn_wrappers`; `upper` is `str.upper`. -/
def stripTxnWrappers (sql : String) : String :=
  "\n".intercalate ((pySplitLines sql).filter (fun line => !isTxnWrapperLine upper line))

end Filter

-- The ledger

section Ledger

variable (effect : Statement → List String → List String)

/-- The names in `schema_migrations`; `effect` is what a statement of a migration does to them. -/
def ledgerNames (log : List Entry) : List String :=
  log.foldl (fun names entry =>
    match entry with
    | .executed _ statement => effect statement names
    | .named file => names ++ [file]) []

def appliedNames (db : Database) : List String := ledgerNames effect db.log

def pending (files applied : List String) : List String :=
  files.filter (fun file => file ∉ applied)

/-- Another session inserted the name and its transaction goes on. -/
def nameIsHeld (db : Database) (run : ℕ) (file : String) : Bool :=
  db.runs.any (fun other =>
    other ≠ run && decide (file ∈ ledgerNames effect (db.log ++ (db.sessions other).work)))

end Ledger

-- Sessions

def Database.move (db : Database) (run : ℕ) (session : RunSession) : Database :=
  { db with sessions := Function.update db.sessions run session }

/-- The run is over, and what it did not commit is rolled back. -/
def Database.leave (db : Database) (run : ℕ) : Database := db.move run ⟨.ended, false, []⟩

def Database.publish (db : Database) (run : ℕ) : Database :=
  { db with log := db.log ++ (db.sessions run).work }

def Database.commitWork (db : Database) (run : ℕ) (outcome : Outcome) (phase : RunPhase)
    (inBlock : Bool)
    : Database :=
  match outcome with
  | .done => (db.publish run).move run ⟨phase, inBlock, []⟩
  | .failed => db.leave run
  | .lost => (db.publish run).leave run

/-- A run starts, on a connection of its own. -/
def beginRun (db : Database) (run : ℕ) (todo : List String) : Database :=
  match (db.sessions run).phase with
  | .ended => { db.move run ⟨.between todo, false, []⟩ with runs := run :: db.runs }
  | _ => db

/-- A statement of a body. Transaction control acts on the block, and is work only where it is
ignored: a `BEGIN` in a block.
-/
def executeStatement (db : Database) (run : ℕ) (file : String) (statement : Statement)
    (rest : List Statement) (todo : List String) (outcome : Outcome)
    : Database :=
  let session := db.sessions run
  let next := RunPhase.body file rest todo
  match control statement with
  | .commits chains => db.commitWork run outcome next chains
  | .plain =>
      if outcome ≠ .done then db.leave run
      else
        db.move run ⟨next, session.inBlock, session.work ++ [.executed file statement]⟩
  | .opens =>
      if outcome ≠ .done then db.leave run
      else db.move run ⟨next, true, session.work ++ [.executed file statement]⟩
  | .rollsBack chains =>
      if outcome ≠ .done then db.leave run else db.move run ⟨next, chains, []⟩
  | .prepares => if outcome ≠ .done then db.leave run else db.move run ⟨next, false, []⟩

/-- `SET LOCAL ROLE` in a new transaction, and the body of a file as the server takes it apart. It
refuses an open quotation, and psycopg2 an empty query.
-/
def openFile (upper : String → String) (text : String → String) (db : Database) (run : ℕ)
    (file : String) (todo : List String) (outcome : Outcome)
    : Database :=
  if outcome ≠ .done then db.leave run
  else
    match statements? (stripTxnWrappers upper (text file)) with
    | none | some [] => db.leave run
    | some statements => db.move run ⟨.body file statements todo, true, []⟩

/-- The `INSERT`. It waits for a name that another transaction inserted, and is committed at once
outside of a transaction block.
-/
def insertName (effect : Statement → List String → List String) (db : Database) (run : ℕ)
    (file : String) (todo : List String) (outcome : Outcome)
    : Database :=
  let session := db.sessions run
  let named := db.move run ⟨.commit file todo, session.inBlock, session.work ++ [.named file]⟩
  if outcome = .failed ∨ file ∈ ledgerNames effect (db.log ++ session.work) then db.leave run
  else if nameIsHeld effect db run file then db
  else if session.inBlock then
    if outcome ≠ .done then db.leave run else named
  else
    named.commitWork run outcome (.commit file todo) false

def advanceRun (upper : String → String) (effect : Statement → List String → List String)
    (text : String → String) (db : Database) (run : ℕ) (outcome : Outcome)
    : Database :=
  match (db.sessions run).phase with
  | .ended => db
  | .between [] => db.leave run
  | .between (file :: todo) => openFile upper text db run file todo outcome
  | .body file (statement :: rest) todo =>
      executeStatement db run file statement rest todo outcome
  | .body file [] todo =>
      if (db.sessions run).inBlock then
        db.move run { db.sessions run with phase := .ledger file todo }
      else
        db.commitWork run outcome (.ledger file todo) false
  | .ledger file todo => insertName effect db run file todo outcome
  | .commit _ todo => db.commitWork run outcome (.between todo) false

/-- One step; nothing is returned. `text` is what `read_text` gives for each file. -/
def runStep (upper : String → String) (effect : Statement → List String → List String)
    (text : String → String) (db : Database)
    : RunCall → Unit × Database
  | .start run files => ((), beginRun db run files)
  | .startPending run files => ((), beginRun db run (pending files (appliedNames effect db)))
  | .advance run outcome => ((), advanceRun upper effect text db run outcome)

def newDatabase : Database := ⟨[], fun _ => ⟨.ended, false, []⟩, []⟩

end RomaBridge.Model.MigrationRunner
