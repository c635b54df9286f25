import Mathlib.Data.Option.Basic

/-! Code that runs under one lock that is not re-entrant. A section that asks for the lock while its
own thread holds it waits forever, so a piece of code is a function of whether the lock is held, and
answers `none` when it never returns.
-/

namespace RomaBridge.Foundation

/-- Code as a function of whether its thread holds the lock; `none` never returns. -/
def Guarded (α : Type) : Type := Bool → Option α

namespace Guarded

variable {α β : Type} {held : Bool}

/-- A value, without touching the lock. -/
def done (value : α) : Guarded α := fun _ => some value

/-- One piece of code after another. -/
def andThen (code : Guarded α) (next : α → Guarded β) : Guarded β :=
  fun held => (code held).bind (fun value => next value held)

instance : Monad Guarded where
  pure := done
  bind := andThen

/-- `with lock:`, which waits forever when the thread holds the lock already. -/
def withLock (body : Guarded α) : Guarded α := fun held => if held then none else body true

/-- Code called by a thread that does not hold the lock. -/
def call (code : Guarded α) : Option α := code false

@[simp]
theorem pure_apply (value : α) : (pure value : Guarded α) held = some value := rfl

@[simp]
theorem bind_apply (code : Guarded α) (next : α → Guarded β)
    : (code >>= next) held = (code held).bind (fun value => next value held) := rfl

@[simp]
theorem withLock_free (body : Guarded α) : withLock body false = body true := rfl

@[simp]
theorem withLock_held (body : Guarded α) : withLock body true = none := rfl

@[simp]
theorem call_withLock (body : Guarded α) : (withLock body).call = body true := rfl

theorem filterM_held (test : α → Guarded Bool) (list : List α)
    (sections : ∀ element, test element true = none)
    : (list.filterM test) true = if list = [] then some [] else none := by
  cases list with
  | nil => rfl
  | cons first rest => simp [List.filterM, List.filterAuxM, sections first]

end Guarded
end RomaBridge.Foundation
