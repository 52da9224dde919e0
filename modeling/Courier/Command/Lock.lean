import Courier.Command.Router
import Courier.Reception.Error

/-! # The lock of a router

Threads reach the processor that is installed through a lock. A thread that begins to unwind while it may
change what is behind the lock poisons it, and nobody reads or changes it after that. So the lock is only
held for as long as it takes to copy a processor out or to put another one in, and what processors do on the
way they do without it.
-/

namespace Courier.Command

structure Lock (α : Type) where
  value : α
  isPoisoned : Bool := false

namespace Lock

variable {α : Type}

/-- What a thread has that may change the value. -/
structure Hold (α : Type) where
  value : α
  /-- Whether the thread was unwinding before it got hold of the lock. -/
  wasUnwinding : Bool

/-- Why nobody gets a lock that is poisoned. -/
def poisonedText : String := "poisoned lock: another task failed inside"

def read (lock : Lock α) : Except String α :=
  if lock.isPoisoned then .error poisonedText else .ok lock.value

def write (lock : Lock α) (unwinding : Bool) : Except String (Hold α) :=
  if lock.isPoisoned then .error poisonedText else .ok ⟨lock.value, unwinding⟩

/-- Gives the lock back. It is poisoned if the thread is unwinding by now and was not before. -/
def Hold.release (hold : Hold α) (unwinding : Bool) : Lock α :=
  ⟨hold.value, unwinding && !hold.wasUnwinding⟩

variable {P : Type}

/-- The processor that is installed. -/
def current (lock : Lock P) : Except Reception.Error P :=
  match lock.read with
  | .error reason => .error (.router reason)
  | .ok processor => .ok processor

/-- Installs a processor and hands back the one before it. -/
def replace (lock : Lock P) (unwinding : Bool) (processor : P) : Except Reception.Error P × Lock P :=
  match lock.write unwinding with
  | .error reason => (.error (.router reason), lock)
  -- Two values change places and no processor runs or is dropped, so the thread does not begin to unwind.
  | .ok hold => (.ok hold.value, { hold with value := processor }.release unwinding)

variable {lock : Lock P}

theorem current_of_sound (h : lock.isPoisoned = false) : lock.current = .ok lock.value := by
  simp [current, read, h]

/-- A thread that is unwinding still changes the lock without harm to it: it was so before. -/
theorem replace_of_sound (h : lock.isPoisoned = false) (unwinding : Bool) (processor : P) :
    lock.replace unwinding processor = (.ok lock.value, ⟨processor, false⟩) := by
  simp [replace, write, h, Hold.release]

end Lock

namespace Router

/-- The lock behind which a router keeps its processor. -/
def lock (router : Router) : Lock Processor := ⟨router.current, false⟩

theorem current_lock (router : Router) : router.lock.current = .ok router.current := rfl

theorem replace_lock (router : Router) (unwinding : Bool) (processor : Processor) :
    router.lock.replace unwinding processor
      = (.ok (router.replace processor).1, (router.replace processor).2.lock) :=
  Lock.replace_of_sound rfl unwinding processor

end Router

end Courier.Command
