import RomaBridge.Foundation.System

/-! One program alone: no other thread moves and no call fails.
The evaluator says what a program computes when nothing interferes. A second evaluator runs a
program among calls of others and with calls that fail.
-/

namespace RomaBridge.Foundation.Machine

variable {S : Signature} {σ τ ρ α β : Type} (M : Machine S σ τ ρ)

def alone : Program S α → σ → Except S.Exn α × σ
  | .done value, store => (.ok value, store)
  | .raised exn, store => (.error exn, store)
  | .call query next, store =>
      alone (next (.ok (M.apply query store).1)) (M.apply query store).2

@[simp]
theorem alone_done (value : α) (store : σ)
    : M.alone (Program.done value) store = (.ok value, store) := rfl

@[simp]
theorem alone_raised (exn : S.Exn) (store : σ)
    : M.alone (Program.raised exn : Program S α) store = (.error exn, store) := rfl

@[simp]
theorem alone_perform (query : S.Call) (store : σ)
    : M.alone (Program.perform query) store
      = (.ok (M.apply query store).1, (M.apply query store).2) := rfl

/-- A sequence runs its rest where the first part returned, by induction on the first part. -/
theorem alone_bind {body : Program S α} {rest : α → Program S β} {store later : σ} {value : α}
    (first : M.alone body store = (.ok value, later))
    : M.alone (body.bind rest) store = M.alone (rest value) later := by
  induction body generalizing store with
  | done => cases first; rfl
  | raised => cases first
  | call query next ih => exact ih _ first

theorem alone_bind_raised {body : Program S α} {rest : α → Program S β} {store later : σ}
    {exn : S.Exn} (first : M.alone body store = (.error exn, later))
    : M.alone (body.bind rest) store = (.error exn, later) := by
  induction body generalizing store with
  | done => cases first
  | raised => cases first; rfl
  | call query next ih => exact ih _ first

theorem alone_handle {body : Program S α} {handler : S.Exn → Program S α} {store later : σ}
    {value : α} (first : M.alone body store = (.ok value, later))
    : M.alone (body.handle handler) store = (.ok value, later) := by
  induction body generalizing store with
  | done => exact first
  | raised => cases first
  | call query next ih => exact ih _ first

theorem alone_handle_raised {body : Program S α} {handler : S.Exn → Program S α}
    {store later : σ} {exn : S.Exn} (first : M.alone body store = (.error exn, later))
    : M.alone (body.handle handler) store = M.alone (handler exn) later := by
  induction body generalizing store with
  | done => cases first
  | raised => cases first; rfl
  | call query next ih => exact ih _ first

theorem alone_attempt {body : Program S α} {store later : σ} {outcome : Except S.Exn α}
    (first : M.alone body store = (outcome, later))
    : M.alone (Program.attempt body) store = (.ok outcome, later) := by
  cases outcome with
  | ok value => exact M.alone_handle ((M.alone_bind first).trans rfl)
  | error exn => exact (M.alone_handle_raised (M.alone_bind_raised first)).trans rfl

/-- What one call of a program meets: the calls of others before it, and how it ends. -/
structure Turn (S : Signature) where
  others : List S.Call
  fault : Fault

def meanwhile (others : List S.Call) (store : σ) : σ :=
  others.foldl (fun current call => (M.apply call current).2) store

/-- The outcome of a program and the store it leaves, each call at its turn. A call without a turn
succeeds, with nothing before it.
-/
def among : Program S α → List (Turn S) → σ → Except S.Exn α × σ
  | .done value, _, store => (.ok value, store)
  | .raised exn, _, store => (.error exn, store)
  | .call query next, turns, store =>
      let turn := turns.headD ⟨[], .none⟩
      let outcome := M.exec query turn.fault (M.meanwhile turn.others store)
      among (next outcome.1) turns.tail outcome.2

theorem meanwhile_invariant {P : σ → Prop} (kept : ∀ call store, P store → P (M.apply call store).2)
    (others : List S.Call) {store : σ} (holds : P store)
    : P (M.meanwhile others store) := by
  induction others generalizing store with
  | nil => exact holds
  | cons call rest ih => exact ih (kept call store holds)

@[simp]
theorem among_done (value : α) (turns : List (Turn S)) (store : σ)
    : M.among (Program.done value) turns store = (.ok value, store) := rfl

@[simp]
theorem among_raised (exn : S.Exn) (turns : List (Turn S)) (store : σ)
    : M.among (Program.raised exn : Program S α) turns store = (.error exn, store) := rfl

@[simp]
theorem among_call {query : S.Call} (next : Except S.Exn (S.Reply query) → Program S α)
    (turn : Turn S) (turns : List (Turn S)) (store : σ)
    : M.among (Program.call query next) (turn :: turns) store
      = M.among (next (M.exec query turn.fault (M.meanwhile turn.others store)).1) turns
        (M.exec query turn.fault (M.meanwhile turn.others store)).2 := rfl

end RomaBridge.Foundation.Machine
