import Mathlib.Logic.Basic

/-! Programs that reach a shared store only through atomic, fallible calls.
A program is a tree of calls; each call is one transaction whose reply, or the exception it
raised, selects the rest of the program. Nothing here fixes a store or a set of calls.
-/

namespace RomaBridge.Foundation

/-- The calls a program may issue, the reply type of each one, and the exceptions. -/
structure Signature where
  Call : Type
  Reply : Call → Type
  Exn : Type

/-- A sequential program over a signature. `call` waits for a reply or for an exception. -/
inductive Program (S : Signature) (α : Type) : Type where
  | done (value : α)
  | raised (exn : S.Exn)
  | call (query : S.Call) (next : Except S.Exn (S.Reply query) → Program S α)

namespace Program

variable {S : Signature} {α β : Type}

/-- Sequencing stops at the first exception. -/
def bind : Program S α → (α → Program S β) → Program S β
  | .done value, rest => rest value
  | .raised exn, _ => .raised exn
  | .call query next, rest => .call query (fun reply => (next reply).bind rest)

/-- A handler runs on any exception of the body and sees none of its calls. -/
def handle : Program S α → (S.Exn → Program S α) → Program S α
  | .done value, _ => .done value
  | .raised exn, handler => handler exn
  | .call query next, handler => .call query (fun reply => (next reply).handle handler)

instance : Monad (Program S) where
  pure := .done
  bind := bind

instance : MonadExceptOf S.Exn (Program S) where
  throw := .raised
  tryCatch := handle

def perform (query : S.Call) : Program S (S.Reply query) :=
  .call query (fun
    | .ok reply => .done reply
    | .error exn => .raised exn)

/-- Continue with an outcome that was decided outside the store. -/
def ofExcept : Except S.Exn α → Program S α
  | .ok value => .done value
  | .error exn => .raised exn

/-- Run a body and hand its outcome, exception included, to the caller. -/
def attempt (body : Program S α) : Program S (Except S.Exn α) :=
  (body.bind (fun value => .done (.ok value))).handle (fun exn => .done (.error exn))

/-- The program has returned or raised: it will issue no further call. -/
def Finished : Program S α → Prop
  | .call _ _ => False
  | _ => True

instance : DecidablePred (Finished (S := S) (α := α)) := fun program =>
  match program with
  | .done _ => .isTrue trivial
  | .raised _ => .isTrue trivial
  | .call _ _ => .isFalse (fun finished => finished)

@[simp]
theorem pure_eq_done (value : α) : (pure value : Program S α) = .done value := rfl

@[simp]
theorem bind_eq_bind (body : Program S α) (rest : α → Program S β)
    : (body >>= rest) = body.bind rest := rfl

/-- Sequences are associative, by induction on the first part. -/
theorem bind_assoc {γ : Type} (body : Program S α) (next : α → Program S β)
    (rest : β → Program S γ)
    : (body.bind next).bind rest = body.bind (fun value => (next value).bind rest) := by
  induction body with
  | done value => rfl
  | raised exn => rfl
  | call query later ih => exact congrArg (Program.call query) (funext ih)

@[simp]
theorem throw_eq_raised (exn : S.Exn) : (throw exn : Program S α) = .raised exn := rfl

@[simp]
theorem tryCatch_eq_handle (body : Program S α) (handler : S.Exn → Program S α)
    : tryCatchThe S.Exn body handler = body.handle handler := rfl

/-- A property of programs that outcomes have and that sequencing and handlers preserve. It
holds of a program as soon as it holds of the calls and parts the program is built from.
-/
structure Closed (Φ : (α : Type) → Program S α → Prop) : Prop where
  done : ∀ {α : Type} (value : α), Φ α (.done value)
  raised : ∀ {α : Type} (exn : S.Exn), Φ α (.raised exn)
  bind
    : ∀ {α β : Type} {body : Program S α} {rest : α → Program S β},
        Φ α body → (∀ value, Φ β (rest value)) → Φ β (body.bind rest)
  handle
    : ∀ {α : Type} {body : Program S α} {handler : S.Exn → Program S α},
        Φ α body → (∀ exn, Φ α (handler exn)) → Φ α (body.handle handler)

namespace Closed

variable {Φ : (α : Type) → Program S α → Prop}

theorem ofExcept (closed : Closed Φ) (outcome : Except S.Exn α)
    : Φ α (Program.ofExcept outcome) := by
  cases outcome with
  | error exn => exact closed.raised exn
  | ok value => exact closed.done value

/-- After an outside answer, the rest runs on that answer. -/
theorem ofExcept_bind (closed : Closed Φ) {outcome : Except S.Exn α}
    {rest : α → Program S β} (later : ∀ value, outcome = .ok value → Φ β (rest value))
    : Φ β ((Program.ofExcept outcome).bind rest) := by
  cases outcome with
  | error exn => exact closed.raised exn
  | ok value => exact later value rfl

theorem attempt (closed : Closed Φ) {body : Program S α} (first : Φ α body)
    : Φ (Except S.Exn α) (Program.attempt body) :=
  closed.handle (closed.bind first (fun _ => closed.done _))
    (fun _ => closed.done _)

end Closed

/-- Every call the program may issue, whatever the replies, satisfies `P`. -/
def Issues (P : S.Call → Prop) : Program S α → Prop
  | .done _ => True
  | .raised _ => True
  | .call query next => P query ∧ ∀ reply, (next reply).Issues P

variable {P P' : S.Call → Prop}

/-- A sequence issues only what its parts issue, by induction on the first part. -/
theorem Issues.bind {body : Program S α} {rest : α → Program S β} (first : body.Issues P)
    (later : ∀ value, (rest value).Issues P)
    : (body.bind rest).Issues P := by
  induction body with
  | done value => exact later value
  | raised exn => trivial
  | call query next ih => exact ⟨first.1, fun reply => ih reply (first.2 reply)⟩

theorem Issues.handle {body : Program S α} {handler : S.Exn → Program S α}
    (first : body.Issues P) (caught : ∀ exn, (handler exn).Issues P)
    : (body.handle handler).Issues P := by
  induction body with
  | done value => trivial
  | raised exn => exact caught exn
  | call query next ih => exact ⟨first.1, fun reply => ih reply (first.2 reply)⟩

/-- Syntactic reach follows the structure of a program. -/
theorem Issues.closed (P : S.Call → Prop)
    : Closed (S := S) (fun _ program => program.Issues P) where
  done _ := trivial
  raised _ := trivial
  bind := Issues.bind
  handle := Issues.handle

theorem Issues.perform {query : S.Call} (holds : P query)
    : (Program.perform query).Issues P := by
  refine ⟨holds, ?_⟩
  rintro (exn | reply) <;> trivial

/-- Reach is monotone in the predicate, by induction on the program. -/
theorem Issues.mono {body : Program S α} (first : body.Issues P)
    (weaken : ∀ query, P query → P' query)
    : body.Issues P' := by
  induction body with
  | done value => trivial
  | raised exn => trivial
  | call query next ih => exact ⟨weaken query first.1, fun reply => ih reply (first.2 reply)⟩

end Program
end RomaBridge.Foundation
