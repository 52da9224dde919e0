import Courier.Command.Processor
import Courier.Text.Record

/-! # The command router

A router keeps the processor that is installed at the moment and a history of its uses. A processor can
be installed for good, or for a section: the guard of the section puts back what was there before.
-/

namespace Courier.Command

/-- One use of a router. -/
inductive Event where
  /-- A command was handed to a processor. -/
  | called (processor : Processor) (peer command : String)
  /-- A processor took the place of another one. -/
  | replaced (installed displaced : Processor)

structure Router where
  current : Processor := .words
  /-- Every use so far, first use first. -/
  history : List Event := []

namespace Router

/-- Installs a processor and hands back the one before it. -/
def replace (router : Router) (processor : Processor) : Processor × Router :=
  (router.current,
    { current := processor, history := router.history ++ [.replaced processor router.current] })

/-- Installs a processor. -/
def install (router : Router) (processor : Processor) : Router :=
  (router.replace processor).2

/-- Hands a command to the current processor: what it will do, and the router that knows of the call. -/
def call (router : Router) (peer command : String) : Program × Router :=
  (router.current.respond peer command,
    { router with history := router.history ++ [.called router.current peer command] })

@[simp]
theorem current_install (router : Router) (processor : Processor) :
    (router.install processor).current = processor := rfl

@[simp]
theorem current_call (router : Router) (peer command : String) :
    (router.call peer command).2.current = router.current := rfl

end Router

/-- The guard of a section in which a processor is installed. -/
structure Scoped where
  previous : Processor

namespace Scoped

/-- Begins a section. -/
def enter (router : Router) (processor : Processor) : Scoped × Router :=
  let (previous, router) := router.replace processor
  (⟨previous⟩, router)

/-- Ends a section: the processor before it is installed again. -/
def leave (router : Router) (opened : Scoped) : Router :=
  router.install opened.previous

@[simp]
theorem current_leave_enter (router after : Router) (processor : Processor) :
    ((enter router processor).1.leave after).current = router.current := rfl

def shown : String := Text.closedRecord "ScopedProcessor"

end Scoped

end Courier.Command
