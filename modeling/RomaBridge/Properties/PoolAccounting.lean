import RomaBridge.Foundation.Table
import RomaBridge.Model.PgPool

/-! Borrowed connections over every interleaving of the calls that borrow and give back: where each
one ends, what the gauge counts and what leaves a `with` block.
-/

namespace RomaBridge.Properties

open RomaBridge RomaBridge.Foundation RomaBridge.Model.PgPool

variable {ε : Type}
variable {world : World ε} {loans : List Loan} {conn index : ℕ} {loan : Loan} {gets : List GetPoint}
  {exits : List (ExitCall ε)} {point : GetPoint} {wrapper : Wrapper}

-- What is to hold

/-- The connection a call of `get_connection` has in its hands. -/
def heldBy : GetPoint → Option ℕ
  | .ping _ _ conn => some conn
  | .discard _ _ conn => some conn
  | .close _ conn => some conn
  | _ => none

def isOut (loan : Loan) : Bool := loan.wrapper.any (fun wrapper => !wrapper.finished)

def EndedOnce (loan : Loan) : Prop :=
  (∃ close, loan.ends = [.givenBack loan.lender close]) ∨ loan.ends = [.closed]

/-- A loan was only ever offered to its lender, and has ended once, unless the call that borrowed it
still has it or its wrapper is out.
-/
def LoanAccounted (world : World ε) (conn : ℕ) (loan : Loan) : Prop :=
  (∀ pool ∈ loan.putconns, pool = loan.lender)
  ∧ (EndedOnce loan
    ∨ (loan.ends = [] ∧ ((∃ point ∈ world.gets, heldBy point = some conn) ∨ isOut loan = true)))

/-- The gauge is the number of the wrappers that are out. -/
def GaugeCounts (gauge : Option Int) (loans : List Loan) : Prop :=
  ∀ value, gauge = some value → value = loans.countP isOut

/-- A call of `__exit__` that has ended without a body exception and raises none has committed. -/
def NormalEndCommits (call : ExitCall ε) : Prop :=
  ∀ error, call.point = .ended error → call.body = none → call.outcome error = none →
    call.commit = some true

def BodyErrorLeaves (call : ExitCall ε) : Prop :=
  ∀ error raised, call.point = .ended error → call.body = some raised →
    call.outcome error = some raised ∧ call.commit = none

/-- The accounts of a world, where a call of `__exit__` that finds its wrapper released ends without
an exception of its own and without a commit.
-/
structure PoolAccounted (world : World ε) : Prop where
  loans : ∀ conn loan, world.loans[conn]? = some loan → LoanAccounted world conn loan
  gauge : GaugeCounts world.gauge world.loans
  nonnegative : ∀ value, world.gauge = some value → 0 ≤ value
  commits : ∀ call ∈ world.exits, call.found = some false → NormalEndCommits call
  repeated : ∀ call ∈ world.exits, call.found = some true →
    call.point = .ended none ∧ call.commit = none
  bodies : ∀ call ∈ world.exits, BodyErrorLeaves call

-- The calls of `__exit__`

/-- A call that has issued what it had to: nothing on a released wrapper, no commit under an
exception of the body, else a commit whose exception it raises.
-/
def CallSettled (call : ExitCall ε) (error : Option ε) : Prop :=
  call.found = some false
  ∧ ((call.body.isSome = true ∧ call.commit = none ∧ error = none)
    ∨ (call.body = none ∧ call.commit = some error.isNone))

/-- What a call of `__exit__` has done, by where it stands. -/
def CallSound (call : ExitCall ε) : Prop :=
  match call.point with
  | .check => call.found = none ∧ call.commit = none
  | .rollback => call.found = some false ∧ call.body.isSome = true ∧ call.commit = none
  | .commit => call.found = some false ∧ call.body = none ∧ call.commit = none
  | .release _ error => CallSettled call error
  | .putconn _ error => CallSettled call error
  | .close error => CallSettled call error
  | .dec error => CallSettled call error
  | .ended error =>
      CallSettled call error ∨ (call.found = some true ∧ call.commit = none ∧ error = none)

theorem CallSound.commits {call : ExitCall ε} (sound : CallSound call)
    (found : call.found = some false)
    : NormalEndCommits call := by
  intro error ended noBody normal
  simp only [CallSound, ended] at sound
  rcases sound with ⟨-, ⟨body, -⟩ | ⟨-, commit⟩⟩ | ⟨released, -⟩
  · rw [noBody] at body
    cases body
  · have none_ : error = none := by simpa [ExitCall.outcome, noBody] using normal
    rw [commit, none_]
    rfl
  · rw [found] at released
    cases released

theorem CallSound.repeated {call : ExitCall ε} (sound : CallSound call)
    (found : call.found = some true)
    : call.point = .ended none ∧ call.commit = none := by
  cases point : call.point with
  | ended error =>
      simp only [CallSound, point] at sound
      rcases sound with ⟨unreleased, -⟩ | ⟨-, commit, rfl⟩
      · rw [found] at unreleased
        cases unreleased
      · exact ⟨rfl, commit⟩
  | _ =>
      simp only [CallSound, point, CallSettled, found] at sound
      obtain ⟨unreleased, -⟩ := sound
      cases unreleased

theorem CallSound.bodies {call : ExitCall ε} (sound : CallSound call) : BodyErrorLeaves call := by
  intro error raised ended body
  simp only [CallSound, ended] at sound
  rcases sound with ⟨-, ⟨-, commit, rfl⟩ | ⟨noBody, -⟩⟩ | ⟨-, commit, rfl⟩
  · exact ⟨by simp [ExitCall.outcome, body], commit⟩
  · rw [body] at noBody
    cases noBody
  · exact ⟨by simp [ExitCall.outcome, body], commit⟩

theorem exitStep_calls (all : ∀ call ∈ world.exits, CallSound call) (index : ℕ) (raised : Option ε)
    : ∀ call ∈ (exitStep index raised world).exits, CallSound call := by
  cases found : world.exits[index]? with
  | none => simpa [exitStep, found] using all
  | some call =>
      have sound := all call (List.mem_of_getElem? found)
      cases lent : world.loans[call.conn]? with
      | none => simpa [exitStep, found, lent] using all
      | some loan =>
          cases wrapped : loan.wrapper with
          | none => simpa [exitStep, found, lent, wrapped] using all
          | some wrapper =>
              simp only [exitStep, found, lent, wrapped]
              cases point : call.point with
              | check =>
                  simp only [CallSound, point] at sound
                  by_cases returned : wrapper.returned.isSome = true
                  · rw [if_pos returned]
                    exact forall_mem_set all index (Or.inr ⟨by rw [returned], sound.2, rfl⟩)
                  · have unreleased : some wrapper.returned.isSome = some false := by
                      simpa using returned
                    rw [if_neg returned]
                    by_cases body : call.body.isSome = true
                    · rw [if_pos body]
                      exact forall_mem_set all index ⟨unreleased, body, sound.2⟩
                    · rw [if_neg body]
                      exact forall_mem_set all index ⟨unreleased, by simpa using body, sound.2⟩
              | rollback =>
                  simp only [CallSound, point] at sound
                  exact forall_mem_set all index ⟨sound.1, Or.inl ⟨sound.2.1, sound.2.2, rfl⟩⟩
              | commit =>
                  simp only [CallSound, point] at sound
                  exact forall_mem_set all index ⟨sound.1, Or.inr ⟨sound.2.1, rfl⟩⟩
              | release close error =>
                  simp only [CallSound, point] at sound
                  dsimp only
                  by_cases returned : wrapper.returned.isSome = true
                  · rw [if_pos returned]
                    refine forall_mem_set all index ?_
                    exact Or.inl sound
                  · rw [if_neg returned]
                    refine forall_mem_set all index ?_
                    exact sound
              | putconn close error =>
                  simp only [CallSound, point] at sound
                  cases wrapper.pool with
                  | none => exact forall_mem_set all index sound
                  | some pool =>
                      cases raised with
                      | none => exact forall_mem_set all index sound
                      | some _ => exact forall_mem_set all index sound
              | close error =>
                  simp only [CallSound, point] at sound
                  exact forall_mem_set all index sound
              | dec error =>
                  simp only [CallSound, point] at sound
                  exact forall_mem_set all index (Or.inl sound)
              | ended error => exact all

/-- A step of a call of `get_connection` leaves the calls of `__exit__` alone. One case per point.
-/
theorem getStep_exits (config : Config) (call : ℕ) (raised : Option ε) (world : World ε)
    : (getStep config call raised world).exits = world.exits := by
  have ensured : (ensurePool config raised.isNone world).2.exits = world.exits := by
    unfold ensurePool createPool
    split_ifs <;> rfl
  unfold getStep
  split
  · dsimp only
    split
    · exact ensured
    · exact ensured
  · rfl
  · rfl
  · split <;> rfl
  · split
    · rfl
    · split <;> rfl
  · split <;> rfl
  · split <;> rfl
  · split <;> rfl
  · rfl

theorem poolStep_calls (config : Config) (all : ∀ call ∈ world.exits, CallSound call)
    (action : Action ε)
    : ∀ call ∈ (poolStep config world action).exits, CallSound call := by
  cases action with
  | getConnection => exact all
  | shutdown => exact all
  | get call raised =>
      simp only [poolStep, getStep_exits]
      exact all
  | finish index raised => exact exitStep_calls all index raised
  | createPool made =>
      simp only [poolStep, createPool]
      split <;> exact all
  | exit conn body =>
      simp only [poolStep, beginExit]
      split
      · intro call member
        rcases List.mem_append.mp member with old | new
        · exact all call old
        · rw [List.mem_singleton.mp new]
          exact ⟨rfl, rfl⟩
      · exact all

-- The gauge

theorem countP_isOut_set (found : loans[conn]? = some loan) (next : Loan)
    : (((loans.set conn next).countP isOut : ℕ) : Int)
      = loans.countP isOut - (if isOut loan = true then 1 else 0)
        + (if isOut next = true then 1 else 0) := by
  obtain ⟨bound, is⟩ := List.getElem?_eq_some_iff.mp found
  have counted := List.countP_set (p := isOut) (a := next) bound
  have stored : isOut loan = true → 0 < loans.countP isOut := fun out =>
    List.countP_pos_iff.mpr ⟨loan, List.mem_of_getElem? found, out⟩
  rw [counted, is]
  by_cases out : isOut loan = true
  · have positive := stored out
    by_cases next_ : isOut next = true
    · simp only [out, next_, if_true]
      omega
    · simp only [out, next_, if_true, if_false, Bool.false_eq_true]
      omega
  · by_cases next_ : isOut next = true
    · simp [out, next_]
    · simp [out, next_]

theorem GaugeCounts.set {gauge : Option Int} (counts : GaugeCounts gauge loans) {next : Loan}
    (found : loans[conn]? = some loan) (by_ : Int)
    (moved : (if isOut loan = true then 1 else 0) + by_
      = if isOut next = true then (1 : Int) else 0)
    : GaugeCounts (gauge.map (· + by_)) (loans.set conn next) := by
  intro value is
  obtain ⟨before, was, rfl⟩ := Option.map_eq_some_iff.mp is
  rw [countP_isOut_set found next, counts before was]
  omega

theorem GaugeCounts.same {gauge : Option Int} (counts : GaugeCounts gauge loans) {next : Loan}
    (found : loans[conn]? = some loan) (kept : isOut next = isOut loan)
    : GaugeCounts gauge (loans.set conn next) := by
  have moved : GaugeCounts (gauge.map (· + 0)) (loans.set conn next) :=
    counts.set found 0 (by rw [kept, Int.add_zero])
  cases gauge with
  | none =>
      intro value is
      cases is
  | some before => simpa using moved

-- Who has a connection

/-- The pool that a call of `get_connection` is to give its connection back to. -/
def lenderOf : GetPoint → Option ℕ
  | .ping _ pool _ => some pool
  | .discard _ pool _ => some pool
  | _ => none

/-- A call of `__exit__` that is inside `_release`. -/
def Releasing : ExitPoint ε → Prop
  | .putconn _ _ => True
  | .close _ => True
  | .dec _ => True
  | _ => False

/-- The stages of a loan, with the call that has the connection. -/
inductive LoanSound (gets : List GetPoint) (exits : List (ExitCall ε)) (conn : ℕ) (loan : Loan)
    : Prop where
  | probed (point : GetPoint) (bare : loan.wrapper = none) (open_ : loan.ends = [])
    (found : gets[loan.borrower]? = some point) (holds : heldBy point = some conn)
  | discarded (bare : loan.wrapper = none) (ended : EndedOnce loan)
  | out (wrapper : Wrapper) (wrapped : loan.wrapper = some wrapper)
    (pool : wrapper.pool = some loan.lender) (free : wrapper.returned = none)
    (open_ : loan.ends = []) (unfinished : wrapper.finished = false)
  | releasing (wrapper : Wrapper) (wrapped : loan.wrapper = some wrapper)
    (pool : wrapper.pool = some loan.lender) (index : ℕ) (mine : wrapper.returned = some index)
    (call : ExitCall ε) (found : exits[index]? = some call) (same : call.conn = conn)
    (stage : (∃ close error, call.point = .putconn close error)
      ∨ ∃ error, call.point = .close error)
    (open_ : loan.ends = []) (unfinished : wrapper.finished = false)
  | dropping (wrapper : Wrapper) (wrapped : loan.wrapper = some wrapper)
    (pool : wrapper.pool = some loan.lender) (index : ℕ) (mine : wrapper.returned = some index)
    (call : ExitCall ε) (found : exits[index]? = some call) (same : call.conn = conn)
    (stage : ∃ error, call.point = .dec error) (ended : EndedOnce loan)
    (unfinished : wrapper.finished = false)
  | finished (wrapper : Wrapper) (wrapped : loan.wrapper = some wrapper)
    (pool : wrapper.pool = some loan.lender) (released : wrapper.returned ≠ none)
    (ended : EndedOnce loan) (finished : wrapper.finished = true)

/-- A connection that a call of `get_connection` has is its own loan, and open. -/
def GetSound (loans : List Loan) (call : ℕ) (point : GetPoint) : Prop :=
  ∀ conn, heldBy point = some conn → ∃ loan, loans[conn]? = some loan ∧ loan.borrower = call
    ∧ loan.wrapper = none ∧ loan.ends = [] ∧ ∀ pool, lenderOf point = some pool → pool = loan.lender

def ExitSound (loans : List Loan) (index : ℕ) (call : ExitCall ε) : Prop :=
  ∃ loan wrapper, loans[call.conn]? = some loan ∧ loan.wrapper = some wrapper
    ∧ (Releasing call.point → wrapper.returned = some index ∧ wrapper.finished = false)

/-- The books of the loans and the calls. -/
structure Books (loans : List Loan) (gets : List GetPoint) (exits : List (ExitCall ε)) : Prop where
  lenders : ∀ loan ∈ loans, ∀ pool ∈ loan.putconns, pool = loan.lender
  stages : ∀ conn loan, loans[conn]? = some loan → LoanSound gets exits conn loan
  borrowers : ∀ call point, gets[call]? = some point → GetSound loans call point
  releases : ∀ index call, exits[index]? = some call → ExitSound loans index call

theorem LoanSound.congr {gets' : List GetPoint} {exits' : List (ExitCall ε)}
    (sound : LoanSound gets exits conn loan)
    (keptGets : ∀ (call : ℕ) (point : GetPoint), gets[call]? = some point →
      heldBy point = some conn → gets'[call]? = some point)
    (keptExits : ∀ (index : ℕ) (call : ExitCall ε), exits[index]? = some call → call.conn = conn →
      Releasing call.point → exits'[index]? = some call)
    : LoanSound gets' exits' conn loan := by
  cases sound with
  | probed point bare open_ found holds =>
      exact .probed point bare open_ (keptGets _ _ found holds) holds
  | discarded bare ended => exact .discarded bare ended
  | out wrapper wrapped pool free open_ unfinished =>
      exact .out wrapper wrapped pool free open_ unfinished
  | releasing wrapper wrapped pool index mine call found same stage open_ unfinished =>
      have inside : Releasing call.point := by
        rcases stage with ⟨close, error, at_⟩ | ⟨error, at_⟩
        · rw [at_]
          trivial
        · rw [at_]
          trivial
      exact .releasing wrapper wrapped pool index mine call (keptExits _ _ found same inside) same
        stage open_ unfinished
  | dropping wrapper wrapped pool index mine call found same stage ended unfinished =>
      have inside : Releasing call.point := by
        obtain ⟨error, at_⟩ := stage
        rw [at_]
        trivial
      exact .dropping wrapper wrapped pool index mine call (keptExits _ _ found same inside) same
        stage ended unfinished
  | finished wrapper wrapped pool released ended finished =>
      exact .finished wrapper wrapped pool released ended finished

theorem GetSound.congr {loans' : List Loan} {call : ℕ} (sound : GetSound loans call point)
    (kept : ∀ (conn : ℕ) (loan : Loan), loans[conn]? = some loan → loan.borrower = call →
      loan.wrapper = none → loans'[conn]? = some loan)
    : GetSound loans' call point := by
  intro conn holds
  obtain ⟨loan, found, mine, bare, open_, lender⟩ := sound conn holds
  exact ⟨loan, kept conn loan found mine bare, mine, bare, open_, lender⟩

theorem GetSound.of_loan {call : ℕ} (lent : loans[conn]? = some loan) (mine : loan.borrower = call)
    (bare : loan.wrapper = none) (open_ : loan.ends = []) (holds : heldBy point = some conn)
    (lender : ∀ pool, lenderOf point = some pool → pool = loan.lender)
    : GetSound loans call point := by
  intro other has
  obtain rfl := Option.some.inj (holds.symm.trans has)
  exact ⟨loan, lent, mine, bare, open_, lender⟩

/-- A step of one call of `get_connection` on the connection it has keeps the books, if the loan it
leaves and the point it comes to are sound. Other loans and calls are not touched.
-/
theorem Books.moveHolder (books : Books loans gets exits) {call : ℕ}
    (at_ : gets[call]? = some point) (holds : heldBy point = some conn)
    (found : loans[conn]? = some loan) {loan' : Loan} (point' : GetPoint)
    (lenders : ∀ pool ∈ loan'.putconns, pool = loan'.lender)
    (stage : LoanSound (gets.set call point') exits conn loan')
    (borrower : GetSound (loans.set conn loan') call point')
    : Books (loans.set conn loan') (gets.set call point') exits := by
  obtain ⟨same, bare⟩ : loan.borrower = call ∧ loan.wrapper = none := by
    obtain ⟨stored, lent, mine, bare, -⟩ := books.borrowers call point at_ conn holds
    obtain rfl := Option.some.inj (found.symm.trans lent)
    exact ⟨mine, bare⟩
  constructor
  · exact forall_mem_set books.lenders conn lenders
  · intro other stored at'
    rcases getElem?_set_cases at' with ⟨rfl, rfl⟩ | ⟨different, before⟩
    · exact stage
    · refine (books.stages other stored before).congr ?_ (fun _ _ there _ _ => there)
      intro holder place there has
      refine getElem?_set_of_ne at_ there ?_ _
      rintro rfl
      exact different (Option.some.inj (has.symm.trans holds))
  · intro holder place at'
    rcases getElem?_set_cases at' with ⟨rfl, rfl⟩ | ⟨different, before⟩
    · exact borrower
    · refine GetSound.congr (books.borrowers holder place before) ?_
      intro other stored there its _
      refine getElem?_set_of_ne found there ?_ _
      rintro rfl
      exact different (its.symm.trans same)
  · intro index exit there
    obtain ⟨stored, wrapper, lent, wrapped, mine⟩ := books.releases index exit there
    have distinct : exit.conn ≠ conn := by
      intro equal
      rw [equal] at lent
      obtain rfl := Option.some.inj (found.symm.trans lent)
      rw [bare] at wrapped
      cases wrapped
    exact ⟨stored, wrapper, by rwa [List.getElem?_set_ne (Ne.symm distinct)], wrapped, mine⟩

/-- A step of one call of `__exit__` keeps the books, if it leaves its loan with the wrapper it has
released, or that nobody had, and the loan and the call are sound. Other loans and calls are not
touched.
-/
theorem Books.moveExit (books : Books loans gets exits) {call : ExitCall ε}
    (at_ : exits[index]? = some call) (found : loans[call.conn]? = some loan)
    (wrapped : loan.wrapper = some wrapper)
    (owner : wrapper.returned = none ∨ wrapper.returned = some index) {loan' : Loan}
    {wrapper' : Wrapper} (wrapped' : loan'.wrapper = some wrapper') (call' : ExitCall ε)
    (same : call'.conn = call.conn) (lenders : ∀ pool ∈ loan'.putconns, pool = loan'.lender)
    (stage : LoanSound gets (exits.set index call') call.conn loan')
    (mine : Releasing call'.point → wrapper'.returned = some index ∧ wrapper'.finished = false)
    : Books (loans.set call.conn loan') gets (exits.set index call') := by
  obtain ⟨bound, -⟩ := List.getElem?_eq_some_iff.mp found
  constructor
  · exact forall_mem_set books.lenders call.conn lenders
  · intro other stored at'
    rcases getElem?_set_cases at' with ⟨rfl, rfl⟩ | ⟨different, before⟩
    · exact stage
    · refine (books.stages other stored before).congr (fun _ _ there _ => there) ?_
      intro place exit there on _
      refine getElem?_set_of_ne at_ there ?_ _
      rintro rfl
      exact different on.symm
  · intro holder place there
    refine GetSound.congr (books.borrowers holder place there) ?_
    intro other stored lent _ bare
    refine getElem?_set_of_ne found lent ?_ _
    rintro rfl
    rw [wrapped] at bare
    cases bare
  · intro place exit at'
    rcases getElem?_set_cases at' with ⟨rfl, rfl⟩ | ⟨different, before⟩
    · refine ⟨loan', wrapper', ?_, wrapped', mine⟩
      rw [same, List.getElem?_set_self bound]
    · obtain ⟨stored, other, lent, has, its⟩ := books.releases place exit before
      by_cases equal : exit.conn = call.conn
      · rw [equal] at lent
        obtain rfl := Option.some.inj (found.symm.trans lent)
        obtain rfl := Option.some.inj (wrapped.symm.trans has)
        refine ⟨loan', wrapper', ?_, wrapped', ?_⟩
        · rw [equal, List.getElem?_set_self bound]
        · intro releasing
          have released := (its releasing).1
          rcases owner with free | held
          · rw [free] at released
            cases released
          · rw [held] at released
            exact absurd (Option.some.inj released).symm different
      · exact ⟨stored, other, by rwa [List.getElem?_set_ne (Ne.symm equal)], has, its⟩

/-- A step of a call of `get_connection` that has no connection, before and after, keeps the books.
-/
theorem Books.passGet (books : Books loans gets exits) {call : ℕ} (at_ : gets[call]? = some point)
    (none_ : heldBy point = none) (point' : GetPoint) (none_' : heldBy point' = none)
    : Books loans (gets.set call point') exits := by
  refine ⟨books.lenders, ?_, ?_, books.releases⟩
  · intro conn loan lent
    refine (books.stages conn loan lent).congr ?_ (fun _ _ there _ _ => there)
    intro holder place there has
    refine getElem?_set_of_ne at_ there ?_ _
    rintro rfl
    rw [none_] at has
    cases has
  · intro holder place at'
    rcases getElem?_set_cases at' with ⟨rfl, rfl⟩ | ⟨-, before⟩
    · intro conn has
      rw [none_'] at has
      cases has
    · exact books.borrowers holder place before

theorem Books.passExit (books : Books loans gets exits) {call : ExitCall ε}
    (at_ : exits[index]? = some call) (outside : ¬ Releasing call.point) (call' : ExitCall ε)
    (same : call'.conn = call.conn) (outside' : ¬ Releasing call'.point)
    : Books loans gets (exits.set index call') := by
  refine ⟨books.lenders, ?_, books.borrowers, ?_⟩
  · intro conn loan lent
    refine (books.stages conn loan lent).congr (fun _ _ there _ => there) ?_
    intro place exit there _ inside
    refine getElem?_set_of_ne at_ there ?_ _
    rintro rfl
    exact outside inside
  · intro place exit at'
    rcases getElem?_set_cases at' with ⟨rfl, rfl⟩ | ⟨-, before⟩
    · obtain ⟨loan, wrapper, lent, wrapped, -⟩ := books.releases place call at_
      exact ⟨loan, wrapper, by rwa [same], wrapped, fun inside => absurd inside outside'⟩
    · exact books.releases place exit before

theorem Books.borrow (books : Books loans gets exits) {call : ℕ} (at_ : gets[call]? = some point)
    (none_ : heldBy point = none) (attempt pool : ℕ)
    : Books (loans ++ [⟨pool, call, [], [], none⟩])
        (gets.set call (.ping attempt pool loans.length)) exits := by
  obtain ⟨bound, -⟩ := List.getElem?_eq_some_iff.mp at_
  refine ⟨?_, ?_, ?_, ?_⟩
  · intro loan member
    rcases List.mem_append.mp member with old | new
    · exact books.lenders loan old
    · rw [List.mem_singleton.mp new]
      simp
  · intro conn loan lent
    rcases getElem?_append_cases lent with old | ⟨rfl, rfl⟩
    · refine (books.stages conn loan old).congr ?_ (fun _ _ there _ _ => there)
      intro holder place there has
      refine getElem?_set_of_ne at_ there ?_ _
      rintro rfl
      rw [none_] at has
      cases has
    · exact .probed _ rfl rfl (List.getElem?_set_self bound) rfl
  · intro holder place at'
    rcases getElem?_set_cases at' with ⟨rfl, rfl⟩ | ⟨-, before⟩
    · intro conn has
      obtain rfl := Option.some.inj has
      refine ⟨_, List.getElem?_concat_length, rfl, rfl, rfl, ?_⟩
      intro lender is
      exact (Option.some.inj is).symm
    · exact GetSound.congr (books.borrowers holder place before)
        (fun _ _ lent _ _ => getElem?_append_some lent _)
  · intro index exit there
    obtain ⟨loan, wrapper, lent, wrapped, mine⟩ := books.releases index exit there
    exact ⟨loan, wrapper, getElem?_append_some lent _, wrapped, mine⟩

theorem Books.addGet (books : Books loans gets exits)
    : Books loans (gets ++ [.ensure 0]) exits := by
  refine ⟨books.lenders, ?_, ?_, books.releases⟩
  · intro conn loan lent
    exact (books.stages conn loan lent).congr (fun _ _ there _ => getElem?_append_some there _)
      (fun _ _ there _ _ => there)
  · intro holder place at'
    rcases getElem?_append_cases at' with before | ⟨-, rfl⟩
    · exact books.borrowers holder place before
    · intro conn has
      cases has

theorem Books.addExit (books : Books loans gets exits) (lent : loans[conn]? = some loan)
    (wrapped : loan.wrapper = some wrapper) (body : Option ε)
    : Books loans gets (exits ++ [⟨conn, body, .check, none, none⟩]) := by
  refine ⟨books.lenders, ?_, books.borrowers, ?_⟩
  · intro other stored found
    exact (books.stages other stored found).congr (fun _ _ there _ => there)
      (fun _ _ there _ _ => getElem?_append_some there _)
  · intro index exit at'
    rcases getElem?_append_cases at' with before | ⟨-, rfl⟩
    · exact books.releases index exit before
    · exact ⟨loan, wrapper, lent, wrapped, fun inside => inside.elim⟩

-- The steps

def Kept (world : World ε) : Prop :=
  Books world.loans world.gets world.exits ∧ GaugeCounts world.gauge world.loans

theorem ensurePool_kept (config : Config) (made : Bool) (kept : Kept world)
    : (ensurePool config made world).2.gets = world.gets
      ∧ Kept (ensurePool config made world).2 := by
  unfold ensurePool createPool
  split_ifs <;> exact ⟨rfl, kept⟩

theorem offered_lender (putconns : ∀ pool ∈ loan.putconns, pool = loan.lender) (close taken : Bool)
    : ∀ pool ∈ (loan.putconn loan.lender close taken).putconns, pool = loan.lender := by
  intro pool member
  rcases List.mem_append.mp member with old | new
  · exact putconns pool old
  · exact List.mem_singleton.mp new

/-- The probe keeps the books and the gauge: it hands the connection out, or goes on to discard it.
-/
theorem ping_kept (config : Config) (kept : Kept world) {call attempt pool : ℕ}
    (at_ : world.gets[call]? = some (.ping attempt pool conn)) (raised : Option ε)
    : Kept (getStep config call raised world) := by
  obtain ⟨books, counts⟩ := kept
  obtain ⟨loan, lent, mine, bare, open_, lender⟩ := books.borrowers call _ at_ conn rfl
  obtain rfl := lender pool rfl
  have putconns := books.lenders loan (List.mem_of_getElem? lent)
  obtain ⟨bound, -⟩ := List.getElem?_eq_some_iff.mp lent
  obtain ⟨reach, -⟩ := List.getElem?_eq_some_iff.mp at_
  simp only [getStep, at_, lent]
  split
  · refine ⟨books.moveHolder at_ rfl lent _ putconns ?_ ?_, ?_⟩
    · exact .out _ rfl rfl rfl open_ rfl
    · intro conn' has
      cases has
    · refine counts.set lent 1 ?_
      simp [isOut, bare, newWrapper]
  · have stays := books.moveHolder at_ rfl lent (.discard attempt loan.lender conn) putconns
      (.probed _ bare open_ (by rw [mine, List.getElem?_set_self reach]) rfl)
      (GetSound.of_loan (by rw [List.getElem?_set_self bound]) mine bare open_ rfl
        (by simp [lenderOf]))
    rw [set_same lent] at stays
    exact ⟨stays, counts⟩

/-- A discard keeps the books and the gauge: its lender takes the connection, or it is closed next.
-/
theorem discard_kept (config : Config) (kept : Kept world) {call attempt pool : ℕ}
    (at_ : world.gets[call]? = some (.discard attempt pool conn)) (raised : Option ε)
    : Kept (getStep config call raised world) := by
  obtain ⟨books, counts⟩ := kept
  obtain ⟨loan, lent, mine, bare, open_, lender⟩ := books.borrowers call _ at_ conn rfl
  obtain rfl := lender pool rfl
  have putconns := books.lenders loan (List.mem_of_getElem? lent)
  obtain ⟨bound, -⟩ := List.getElem?_eq_some_iff.mp lent
  obtain ⟨reach, -⟩ := List.getElem?_eq_some_iff.mp at_
  simp only [getStep, at_, lent]
  refine ⟨?_, counts.same lent rfl⟩
  cases raised with
  | none =>
      refine books.moveHolder at_ rfl lent _ (offered_lender putconns true true) ?_ ?_
      · exact .discarded bare (Or.inl ⟨true, by simp [Loan.putconn, open_]⟩)
      · intro conn' has
        cases has
  | some error =>
      refine books.moveHolder at_ rfl lent _ (offered_lender putconns true false) ?_ ?_
      · refine .probed (.close attempt conn) bare open_ ?_ rfl
        exact (congrArg _ mine).trans (List.getElem?_set_self reach)
      · refine GetSound.of_loan (List.getElem?_set_self bound) mine bare open_ rfl ?_
        intro lender is
        cases is

/-- A step of a call of `get_connection` keeps the books and the gauge. One case per point. -/
theorem getStep_kept (config : Config) (kept : Kept world) (call : ℕ) (raised : Option ε)
    : Kept (getStep config call raised world) := by
  obtain ⟨books, counts⟩ := kept
  cases at_ : world.gets[call]? with
  | none =>
      simp only [getStep, at_]
      exact ⟨books, counts⟩
  | some point =>
      cases point with
      | ensure attempt =>
          obtain ⟨same, books', counts'⟩ := ensurePool_kept config raised.isNone ⟨books, counts⟩
          have at' : (ensurePool config raised.isNone world).2.gets[call]?
              = some (.ensure attempt) := by
            rw [same, at_]
          simp only [getStep, at_]
          split
          · exact ⟨books'.passGet at' rfl _ rfl, counts'⟩
          · exact ⟨books'.passGet at' rfl _ rfl, counts'⟩
      | capture attempt =>
          simp only [getStep, at_]
          exact ⟨books.passGet at_ rfl _ rfl, counts⟩
      | getconn attempt pool =>
          cases pool with
          | none =>
              simp only [getStep, at_]
              exact ⟨books.passGet at_ rfl _ rfl, counts⟩
          | some pool =>
              simp only [getStep, at_]
              split
              · refine ⟨books.borrow at_ rfl attempt pool, ?_⟩
                intro value is
                rw [counts value is]
                simp [World.moveGet, List.countP_append, isOut]
              · exact ⟨books.passGet at_ rfl _ rfl, counts⟩
      | ping attempt pool conn => exact ping_kept config ⟨books, counts⟩ at_ raised
      | discard attempt pool conn => exact discard_kept config ⟨books, counts⟩ at_ raised
      | close attempt conn =>
          obtain ⟨loan, lent, mine, bare, open_, -⟩ := books.borrowers call _ at_ conn rfl
          have putconns := books.lenders loan (List.mem_of_getElem? lent)
          simp only [getStep, at_, lent]
          refine ⟨books.moveHolder at_ rfl lent _ putconns ?_ ?_, ?_⟩
          · exact .discarded bare (Or.inr (by simp [Loan.close, open_]))
          · intro conn' has
            cases has
          · exact counts.same lent rfl
      | failed attempt =>
          simp only [getStep, at_]
          split
          · exact ⟨books.passGet at_ rfl _ rfl, counts⟩
          · exact ⟨books.passGet at_ rfl _ rfl, counts⟩
      | returned conn =>
          simp only [getStep, at_]
          exact ⟨books, counts⟩
      | raised =>
          simp only [getStep, at_]
          exact ⟨books, counts⟩

/-- While the call that released a wrapper is in `_release`, the loan is open before the gauge is
decremented, and has ended then. One case per stage.
-/
theorem LoanSound.released_cases {call : ExitCall ε} (sound : LoanSound gets exits conn loan)
    (wrapped : loan.wrapper = some wrapper) (mine : wrapper.returned = some index)
    (unfinished : wrapper.finished = false) (at_ : exits[index]? = some call)
    : wrapper.pool = some loan.lender
      ∧ ((((∃ close error, call.point = .putconn close error)
            ∨ ∃ error, call.point = .close error) ∧ loan.ends = [])
        ∨ ((∃ error, call.point = .dec error) ∧ EndedOnce loan)) := by
  cases sound with
  | probed _ bare =>
      rw [bare] at wrapped
      cases wrapped
  | discarded bare =>
      rw [bare] at wrapped
      cases wrapped
  | out other wrapped' pool free =>
      obtain rfl := Option.some.inj (wrapped.symm.trans wrapped')
      rw [free] at mine
      cases mine
  | releasing other wrapped' pool place its exit found _ stage open_ =>
      obtain rfl := Option.some.inj (wrapped.symm.trans wrapped')
      obtain rfl := Option.some.inj (mine.symm.trans its)
      obtain rfl := Option.some.inj (at_.symm.trans found)
      exact ⟨pool, Or.inl ⟨stage, open_⟩⟩
  | dropping other wrapped' pool place its exit found _ stage ended =>
      obtain rfl := Option.some.inj (wrapped.symm.trans wrapped')
      obtain rfl := Option.some.inj (mine.symm.trans its)
      obtain rfl := Option.some.inj (at_.symm.trans found)
      exact ⟨pool, Or.inr ⟨stage, ended⟩⟩
  | finished other wrapped' _ _ _ finished =>
      obtain rfl := Option.some.inj (wrapped.symm.trans wrapped')
      rw [unfinished] at finished
      cases finished

theorem LoanSound.open_of {call : ExitCall ε} (sound : LoanSound gets exits conn loan)
    (wrapped : loan.wrapper = some wrapper) (mine : wrapper.returned = some index)
    (unfinished : wrapper.finished = false) (at_ : exits[index]? = some call)
    (before : ∀ error, call.point ≠ .dec error)
    : loan.ends = [] ∧ wrapper.pool = some loan.lender := by
  obtain ⟨pool, ⟨-, open_⟩ | ⟨⟨error, dec⟩, -⟩⟩ :=
    sound.released_cases wrapped mine unfinished at_
  · exact ⟨open_, pool⟩
  · exact absurd dec (before error)

theorem LoanSound.ended_of {call : ExitCall ε} (sound : LoanSound gets exits conn loan)
    (wrapped : loan.wrapper = some wrapper) (mine : wrapper.returned = some index)
    (unfinished : wrapper.finished = false) (at_ : exits[index]? = some call) {error : Option ε}
    (dec : call.point = .dec error)
    : EndedOnce loan ∧ wrapper.pool = some loan.lender := by
  obtain ⟨pool, ⟨⟨close, error', other⟩ | ⟨error', other⟩, -⟩ | ⟨-, ended⟩⟩ :=
    sound.released_cases wrapped mine unfinished at_
  · rw [dec] at other
    cases other
  · rw [dec] at other
    cases other
  · exact ⟨ended, pool⟩

theorem LoanSound.out_of (sound : LoanSound gets exits conn loan)
    (wrapped : loan.wrapper = some wrapper) (free : wrapper.returned = none)
    : loan.ends = [] ∧ wrapper.pool = some loan.lender ∧ wrapper.finished = false := by
  cases sound with
  | probed _ bare => rw [bare] at wrapped; cases wrapped
  | discarded bare => rw [bare] at wrapped; cases wrapped
  | out other wrapped' pool _ open_ unfinished =>
      obtain rfl := Option.some.inj (wrapped.symm.trans wrapped')
      exact ⟨open_, pool, unfinished⟩
  | releasing other wrapped' _ _ its =>
      obtain rfl := Option.some.inj (wrapped.symm.trans wrapped')
      rw [free] at its
      cases its
  | dropping other wrapped' _ _ its =>
      obtain rfl := Option.some.inj (wrapped.symm.trans wrapped')
      rw [free] at its
      cases its
  | finished other wrapped' _ released =>
      obtain rfl := Option.some.inj (wrapped.symm.trans wrapped')
      exact absurd free released

/-- A step inside `_release` keeps the books and the gauge: the connection is offered to its lender
or closed, and the gauge decremented last. One case per point.
-/
theorem releasing_kept (kept : Kept world) {call : ExitCall ε}
    (at_ : world.exits[index]? = some call) (inside : Releasing call.point) (raised : Option ε)
    : Kept (exitStep index raised world) := by
  obtain ⟨books, counts⟩ := kept
  obtain ⟨loan, wrapper, lent, wrapped, mine⟩ := books.releases index call at_
  obtain ⟨its, unfinished⟩ := mine inside
  have sound := books.stages call.conn loan lent
  have putconns := books.lenders loan (List.mem_of_getElem? lent)
  obtain ⟨reach, -⟩ := List.getElem?_eq_some_iff.mp at_
  simp only [exitStep, at_, lent, wrapped]
  cases point : call.point with
  | putconn close error =>
      obtain ⟨open_, pool⟩ := sound.open_of wrapped its unfinished at_ (by simp [point])
      simp only [pool]
      have wrapped' : ∀ taken, (loan.putconn loan.lender close taken).wrapper = some wrapper :=
        fun _ => wrapped
      refine ⟨?_, counts.same lent rfl⟩
      cases raised with
      | none =>
          refine books.moveExit at_ lent wrapped (Or.inr its) (wrapped' true) _ rfl
            (offered_lender putconns close true) ?_ (fun _ => ⟨its, unfinished⟩)
          exact .dropping wrapper wrapped pool index its _ (List.getElem?_set_self reach) rfl
            ⟨error, rfl⟩ (Or.inl ⟨close, by simp [Loan.putconn, open_]⟩) unfinished
      | some _ =>
          refine books.moveExit at_ lent wrapped (Or.inr its) (wrapped' false) _ rfl
            (offered_lender putconns close false) ?_ (fun _ => ⟨its, unfinished⟩)
          exact .releasing wrapper wrapped pool index its _ (List.getElem?_set_self reach) rfl
            (Or.inr ⟨error, rfl⟩) open_ unfinished
  | close error =>
      obtain ⟨open_, pool⟩ := sound.open_of wrapped its unfinished at_ (by simp [point])
      have wrapped' : loan.close.wrapper = some wrapper := wrapped
      dsimp only
      refine ⟨?_, counts.same lent rfl⟩
      refine books.moveExit at_ lent wrapped (Or.inr its) wrapped' _ rfl putconns ?_
        (fun _ => ⟨its, unfinished⟩)
      exact .dropping wrapper wrapped pool index its _ (List.getElem?_set_self reach) rfl
        ⟨error, rfl⟩ (Or.inr (by simp [Loan.close, open_])) unfinished
  | dec error =>
      obtain ⟨ended, pool⟩ := sound.ended_of wrapped its unfinished at_ point
      refine ⟨books.moveExit at_ lent wrapped (Or.inr its) rfl _ rfl putconns ?_ ?_, ?_⟩
      · refine .finished _ rfl pool ?_ ended rfl
        rw [its]
        simp
      · exact fun later => later.elim
      · refine counts.set lent (-1) ?_
        simp [isOut, wrapped, unfinished]
  | _ =>
      rw [point] at inside
      exact inside.elim

/-- A step of a call of `__exit__` keeps the books and the gauge. One case per point. -/
theorem exitStep_kept (kept : Kept world) (index : ℕ) (raised : Option ε)
    : Kept (exitStep index raised world) := by
  cases at_ : world.exits[index]? with
  | none =>
      simp only [exitStep, at_]
      exact kept
  | some call =>
      by_cases inside : Releasing call.point
      · exact releasing_kept kept at_ inside raised
      · obtain ⟨books, counts⟩ := kept
        obtain ⟨loan, wrapper, lent, wrapped, -⟩ := books.releases index call at_
        have sound := books.stages call.conn loan lent
        have putconns := books.lenders loan (List.mem_of_getElem? lent)
        obtain ⟨reach, -⟩ := List.getElem?_eq_some_iff.mp at_
        -- outside `_release`, before and after the step, the loan is not touched
        have passes : ∀ next : ExitCall ε, next.conn = call.conn → ¬ Releasing next.point →
            Kept (world.moveExit index next) :=
          fun next same outside => ⟨books.passExit at_ inside next same outside, counts⟩
        simp only [exitStep, at_, lent, wrapped]
        cases point : call.point with
        | check =>
            dsimp only
            split
            · exact passes _ rfl id
            · split
              · exact passes _ rfl id
              · exact passes _ rfl id
        | rollback => exact passes _ rfl id
        | commit => exact passes _ rfl id
        | release close error =>
            dsimp only
            by_cases returned : wrapper.returned.isSome = true
            · rw [if_pos returned]
              exact passes _ rfl id
            · rw [if_neg returned]
              have free : wrapper.returned = none := by simpa using returned
              obtain ⟨open_, pool, unfinished⟩ := sound.out_of wrapped free
              refine ⟨books.moveExit at_ lent wrapped (Or.inl free) rfl _ rfl putconns ?_ ?_, ?_⟩
              · exact .releasing _ rfl pool index rfl _ (List.getElem?_set_self reach) rfl
                  (Or.inl ⟨close, error, rfl⟩) open_ unfinished
              · exact fun _ => ⟨rfl, unfinished⟩
              · refine counts.same lent ?_
                simp [isOut, wrapped]
        | ended error => exact ⟨books, counts⟩
        | _ =>
            rw [point] at inside
            exact absurd trivial inside

theorem poolStep_kept (config : Config) (kept : Kept world) (action : Action ε)
    : Kept (poolStep config world action) := by
  cases action with
  | getConnection => exact ⟨kept.1.addGet, kept.2⟩
  | get call raised => exact getStep_kept config kept call raised
  | finish index raised => exact exitStep_kept kept index raised
  | shutdown => exact kept
  | createPool made =>
      simp only [poolStep, createPool]
      split <;> exact kept
  | exit conn body =>
      simp only [poolStep, beginExit]
      split
      · rename_i handed
        obtain ⟨wrapper, stored⟩ := Option.isSome_iff_exists.mp handed
        obtain ⟨loan, lent, wrapped⟩ := Option.bind_eq_some_iff.mp stored
        exact ⟨kept.1.addExit lent wrapped body, kept.2⟩
      · exact kept

-- Every interleaving

/-- What holds of a run, by induction on its actions. -/
theorem runPool_kept (config : Config) (metrics : Bool) (actions : List (Action ε))
    : Kept (runPool config metrics actions)
      ∧ ∀ call ∈ (runPool config metrics actions).exits, CallSound call := by
  have start : Kept (newWorld metrics : World ε)
      ∧ ∀ call ∈ (newWorld metrics : World ε).exits, CallSound call := by
    refine ⟨⟨⟨?_, ?_, ?_, ?_⟩, ?_⟩, ?_⟩
    · intro loan member
      cases member
    · intro conn loan lent
      cases lent
    · intro call point at_
      cases at_
    · intro index call at_
      cases at_
    · intro value is
      cases metrics with
      | true =>
          obtain rfl := Option.some.inj is
          rfl
      | false => cases is
    · intro call member
      cases member
  unfold runPool
  generalize (newWorld metrics : World ε) = world at start
  induction actions generalizing world with
  | nil => exact start
  | cons action rest ih =>
      exact ih _ ⟨poolStep_kept config start.1 action, poolStep_calls config start.2 action⟩

theorem LoanSound.accounted (lenders : ∀ pool ∈ loan.putconns, pool = loan.lender)
    (sound : LoanSound world.gets world.exits conn loan)
    : LoanAccounted world conn loan := by
  refine ⟨lenders, ?_⟩
  cases sound with
  | probed point _ open_ found holds =>
      exact Or.inr ⟨open_, Or.inl ⟨point, List.mem_of_getElem? found, holds⟩⟩
  | discarded _ ended => exact Or.inl ended
  | out wrapper wrapped _ _ open_ unfinished =>
      exact Or.inr ⟨open_, Or.inr (by simp [isOut, wrapped, unfinished])⟩
  | releasing wrapper wrapped _ _ _ _ _ _ _ open_ unfinished =>
      exact Or.inr ⟨open_, Or.inr (by simp [isOut, wrapped, unfinished])⟩
  | dropping _ _ _ _ _ _ _ _ _ ended => exact Or.inl ended
  | finished _ _ _ _ ended => exact Or.inl ended

/-- Over every interleaving of borrowing, leaving, repeated leaving, creating the pool and shutting
it down, with every failure of the library: connections end once and at their lender, the gauge
counts the wrappers that are out, a block whose wrapper was not released before ends normally only
with its commit, and an exception of its body leaves it without one.
-/
theorem poolAccounting (config : Config) (metrics : Bool) (actions : List (Action ε))
    : PoolAccounted (runPool config metrics actions) := by
  obtain ⟨⟨books, counts⟩, calls⟩ := runPool_kept config metrics actions
  refine ⟨?_, counts, ?_, ?_, ?_, ?_⟩
  · intro conn loan lent
    exact (books.stages conn loan lent).accounted (books.lenders loan (List.mem_of_getElem? lent))
  · intro value is
    rw [counts value is]
    exact Int.natCast_nonneg _
  · intro call member found
    exact (calls call member).commits found
  · intro call member found
    exact (calls call member).repeated found
  · intro call member
    exact (calls call member).bodies

/-- Every call of `__exit__` that ends a block normally has a commit of its connection that
succeeded, its own or that of another call.
-/
def CommittedBlocks (world : World ε) : Prop :=
  ∀ call ∈ world.exits, ∀ error, call.point = .ended error → call.body = none →
    call.outcome error = none → ∃ other ∈ world.exits, other.conn = call.conn
      ∧ other.commit = some true

/-- A body that calls `__exit__` on its own wrapper, catches the failure of the commit and ends. -/
def caughtCommit : List (Action String) :=
  [.getConnection, .get 0 none, .get 0 none, .get 0 none, .get 0 none,
    .exit 0 none, .finish 0 none, .finish 0 (some "commit failed"), .finish 0 none, .finish 0 none,
    .finish 0 none,
    .exit 0 none, .finish 1 none]

/-- The block ends normally, and no commit has succeeded. -/
theorem poolAccounting_caughtCommit
    : ¬ CommittedBlocks (runPool ⟨true, 5⟩ true caughtCommit) := by
  intro committed
  have calls : (runPool ⟨true, 5⟩ true caughtCommit).exits
      = [⟨0, none, .ended (some "commit failed"), some false, some false⟩,
        ⟨0, none, .ended none, some true, none⟩] := by
    decide
  obtain ⟨other, member, -, succeeded⟩ := committed ⟨0, none, .ended none, some true, none⟩
    (by simp [calls]) none rfl rfl rfl
  rw [calls] at member
  rcases List.mem_pair.mp member with rfl | rfl
  · cases succeeded
  · cases succeeded

end RomaBridge.Properties
