import Mathlib.Data.List.Basic

/-! `src/billing/pg_connection.py`: the connection manager, its wrapper `_PgConnection` and the
gauge of active connections. The calls of `get_connection` and of `__exit__` take their steps in any
order; the library call in a step returns or raises.
-/

namespace RomaBridge.Model.PgPool

variable {ε : Type}

/-- How a borrowed connection ends: `putconn` took it, or `close()` was called on it. -/
inductive Ending where
  | givenBack (pool : ℕ) (close : Bool)
  | closed
  deriving DecidableEq, Repr

/-- `_PgConnection`. `returned` is `_returned`, with the call of `__exit__` that set it; `finished`
says that `_release` has come to its end.
-/
structure Wrapper where
  pool : Option ℕ
  returned : Option ℕ
  finished : Bool
  deriving DecidableEq, Repr

/-- A connection that a pool has lent to a call of `get_connection`, the pools it was offered back
to, its ends, and the wrapper around it.
-/
structure Loan where
  lender : ℕ
  borrower : ℕ
  putconns : List ℕ
  ends : List Ending
  wrapper : Option Wrapper
  deriving DecidableEq, Repr

/-- Where a call of `get_connection` stands; `attempt` is that of its loop. -/
inductive GetPoint where
  | ensure (attempt : ℕ)
  | capture (attempt : ℕ)
  | getconn (attempt : ℕ) (pool : Option ℕ)
  | ping (attempt pool conn : ℕ)
  | discard (attempt pool conn : ℕ)
  | close (attempt conn : ℕ)
  | failed (attempt : ℕ)
  | returned (conn : ℕ)
  | raised
  deriving DecidableEq, Repr

/-- Where a call of `__exit__` stands in `_finish` and `_release`; `error` is the exception that
`_finish` raises after the release.
-/
inductive ExitPoint (ε : Type) where
  | check
  | rollback
  | commit
  | release (close : Bool) (error : Option ε)
  | putconn (close : Bool) (error : Option ε)
  | close (error : Option ε)
  | dec (error : Option ε)
  | ended (error : Option ε)
  deriving DecidableEq, Repr

/-- A call of `__exit__` on the wrapper of a connection, with the exception of the body. `found` is
what `_finish` read of `_returned`, `commit` says whether the commit it issued succeeded.
-/
structure ExitCall (ε : Type) where
  conn : ℕ
  body : Option ε
  point : ExitPoint ε
  found : Option Bool
  commit : Option Bool
  deriving DecidableEq, Repr

/-- What leaves the `with` block: the exception of `__exit__`, else that of the body. -/
def ExitCall.outcome (call : ExitCall ε) (error : Option ε) : Option ε := error.or call.body

/-- `PG_DSN` is set, and `PG_RECONNECT_ATTEMPTS`. -/
structure Config where
  dsn : Bool
  reconnects : ℕ

/-- The manager's `_pool` and `_pg_available`, the gauge when there are metrics, every loan and
every call so far.
-/
structure World (ε : Type) where
  pool : Option ℕ
  available : Bool
  pools : ℕ
  gauge : Option Int
  loans : List Loan
  gets : List GetPoint
  exits : List (ExitCall ε)
  deriving DecidableEq, Repr

def newWorld (metrics : Bool) : World ε :=
  { pool := none, available := false, pools := 0, gauge := if metrics then some 0 else none
    loans := [], gets := [], exits := [] }

/-- `_create_pool`: a new pool takes the place of the old one, whose `closeall()` shows in what
later calls of its `putconn` do.
-/
def createPool (config : Config) (made : Bool) (world : World ε) : Bool × World ε :=
  if config.dsn && made then
    (true, { world with pool := some world.pools, pools := world.pools + 1, available := true })
  else
    (false, { world with available := false })

def ensurePool (config : Config) (made : Bool) (world : World ε) : Bool × World ε :=
  if !config.dsn then
    (false, world)
  else if world.pool.isSome && world.available then
    (true, world)
  else
    createPool config made world

def shutdown (world : World ε) : World ε := { world with pool := none, available := false }

/-- A call of `get_connection` comes to another point. -/
def World.moveGet (world : World ε) (call : ℕ) (point : GetPoint) : World ε :=
  { world with gets := world.gets.set call point }

/-- A call of `__exit__` takes a step. -/
def World.moveExit (world : World ε) (index : ℕ) (call : ExitCall ε) : World ε :=
  { world with exits := world.exits.set index call }

def World.setLoan (world : World ε) (conn : ℕ) (loan : Loan) : World ε :=
  { world with loans := world.loans.set conn loan }

/-- The end of `get_connection` after the loop. -/
def World.giveUp (world : World ε) (call : ℕ) : World ε :=
  { world with available := false }.moveGet call .raised

/-- `pool.putconn(conn, close=close)`, which takes the connection or raises. -/
def Loan.putconn (loan : Loan) (pool : ℕ) (close taken : Bool) : Loan :=
  { loan with
    putconns := loan.putconns ++ [pool]
    ends := if taken then loan.ends ++ [.givenBack pool close] else loan.ends }

/-- `conn.close()`; an exception of it is logged. -/
def Loan.close (loan : Loan) : Loan := { loan with ends := loan.ends ++ [.closed] }

/-- `_PgConnection(mgr, conn, pool)`, with `mgr._pool`. -/
def newWrapper (pool managed : Option ℕ) : Wrapper :=
  { pool := pool.or managed, returned := none, finished := false }

/-- The next step of a call of `get_connection`. The cursor, the probe and the cursor's close are
the one step `ping`; a gauge that is incremented counts the wrapper as handed out.
-/
def getStep (config : Config) (call : ℕ) (raised : Option ε) (world : World ε) : World ε :=
  match world.gets[call]? with
  | some (.ensure attempt) =>
      let (ready, next) := ensurePool config raised.isNone world
      if ready then next.moveGet call (.capture attempt) else next.giveUp call
  | some (.capture attempt) => world.moveGet call (.getconn attempt world.pool)
  | some (.getconn attempt none) => world.moveGet call (.failed attempt)
  | some (.getconn attempt (some pool)) =>
      if raised.isNone then
        let loan : Loan := ⟨pool, call, [], [], none⟩
        { world with loans := world.loans ++ [loan] }.moveGet call
          (.ping attempt pool world.loans.length)
      else
        world.moveGet call (.failed attempt)
  | some (.ping attempt pool conn) =>
      match world.loans[conn]? with
      | none => world
      | some loan =>
          if raised.isNone then
            let wrapper := newWrapper (some pool) world.pool
            { world with gauge := world.gauge.map (· + 1) }.setLoan conn
              { loan with wrapper := some wrapper } |>.moveGet call (.returned conn)
          else
            world.moveGet call (.discard attempt pool conn)
  | some (.discard attempt pool conn) =>
      match world.loans[conn]? with
      | none => world
      | some loan =>
          (world.setLoan conn (loan.putconn pool true raised.isNone)).moveGet call
            (if raised.isNone then .failed attempt else .close attempt conn)
  | some (.close attempt conn) =>
      match world.loans[conn]? with
      | none => world
      | some loan => (world.setLoan conn loan.close).moveGet call (.failed attempt)
  | some (.failed attempt) =>
      if attempt = config.reconnects then
        world.giveUp call
      else
        { world with available := false }.moveGet call (.ensure (attempt + 1))
  | _ => world

/-- The next step of a call of `__exit__`. The test of `_returned` in `_release` and its assignment
are one step.
-/
def exitStep (index : ℕ) (raised : Option ε) (world : World ε) : World ε :=
  match world.exits[index]? with
  | none => world
  | some call =>
      match world.loans[call.conn]? with
      | none => world
      | some loan =>
          match loan.wrapper with
          | none => world
          | some wrapper =>
              match call.point with
              | .check =>
                  let found := some wrapper.returned.isSome
                  if wrapper.returned.isSome then
                    world.moveExit index { call with found, point := .ended none }
                  else if call.body.isSome then
                    world.moveExit index { call with found, point := .rollback }
                  else
                    world.moveExit index { call with found, point := .commit }
              | .rollback =>
                  world.moveExit index { call with point := .release raised.isSome none }
              | .commit =>
                  world.moveExit index
                    { call with
                      commit := some raised.isNone
                      point := .release raised.isSome raised }
              | .release close error =>
                  if wrapper.returned.isSome then
                    world.moveExit index { call with point := .ended error }
                  else
                    let released := { wrapper with returned := some index }
                    (world.setLoan call.conn { loan with wrapper := some released }).moveExit index
                      { call with point := .putconn close error }
              | .putconn close error =>
                  match wrapper.pool with
                  | none => world.moveExit index { call with point := .close error }
                  | some pool =>
                      let offered := loan.putconn pool close raised.isNone
                      (world.setLoan call.conn offered).moveExit index
                        { call with point := if raised.isNone then .dec error else .close error }
              | .close error =>
                  (world.setLoan call.conn loan.close).moveExit index
                    { call with point := .dec error }
              | .dec error =>
                  { world with gauge := world.gauge.map (· - 1) }.setLoan call.conn
                    { loan with wrapper := some { wrapper with finished := true } } |>.moveExit
                      index { call with point := .ended error }
              | .ended _ => world

/-- What can happen next: a call begins or takes a step, in which the library call raises or not, or
the pool is created anew or shut down.
-/
inductive Action (ε : Type) where
  | getConnection
  | get (call : ℕ) (raised : Option ε)
  | exit (conn : ℕ) (body : Option ε)
  | finish (index : ℕ) (raised : Option ε)
  | createPool (made : Bool)
  | shutdown
  deriving DecidableEq, Repr

/-- A call of `__exit__` on a wrapper that was handed out. -/
def beginExit (conn : ℕ) (body : Option ε) (world : World ε) : World ε :=
  if (world.loans[conn]?.bind (·.wrapper)).isSome then
    { world with exits := world.exits ++ [⟨conn, body, .check, none, none⟩] }
  else
    world

def poolStep (config : Config) (world : World ε) : Action ε → World ε
  | .getConnection => { world with gets := world.gets ++ [.ensure 0] }
  | .get call raised => getStep config call raised world
  | .exit conn body => beginExit conn body world
  | .finish index raised => exitStep index raised world
  | .createPool made => (createPool config made world).2
  | .shutdown => shutdown world

def runPool (config : Config) (metrics : Bool) (actions : List (Action ε)) : World ε :=
  actions.foldl (poolStep config) (newWorld metrics)

end RomaBridge.Model.PgPool
