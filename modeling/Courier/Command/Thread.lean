import Courier.Command.Router

/-! # Threads on a router

A thread runs a program one step at a time, and no step uses the router more than once, so every order
in which threads can meet on one router is an order of steps. A processor runs on the thread that routed
to it; when it ends, by an answer or by panic, the sections it is still in end with it.
-/

namespace Courier.Command

/-- How a program ends. -/
inductive Outcome where
  | answered (accepted : Bool)
  | panicked (message : String)
  /-- Processors routed to each other without end. -/
  | exhausted
deriving DecidableEq, Repr

/-- A program that waits for the answer to a command, and the sections it is in, innermost first. -/
structure Caller where
  next : Bool → Program
  sections : List Scoped

inductive Thread where
  | running (program : Program) (sections : List Scoped) (callers : List Caller)
  | finished (outcome : Outcome)

namespace Thread

/-- A thread that is about to run a program. -/
def ofProgram (program : Program) : Thread := .running program [] []

/-- Goes on after a program has answered. -/
def returned (accepted : Bool) : List Caller → Thread
  | [] => .finished (.answered accepted)
  | caller :: callers => .running (caller.next accepted) caller.sections callers

/-- Goes on after a program has panicked: its caller panics as well. -/
def unwound (message : String) : List Caller → Thread
  | [] => .finished (.panicked message)
  | caller :: callers => .running (.panic message) caller.sections callers

/-- The next step of a thread. -/
def step (thread : Thread) (router : Router) : Thread × Router :=
  match thread with
  | .finished outcome => (.finished outcome, router)
  | .running (.answer accepted) [] callers => (returned accepted callers, router)
  | .running (.answer accepted) (opened :: sections) callers =>
    (.running (.answer accepted) sections callers, opened.leave router)
  | .running (.panic message) [] callers => (unwound message callers, router)
  | .running (.panic message) (opened :: sections) callers =>
    (.running (.panic message) sections callers, opened.leave router)
  | .running (.install processor next) sections callers =>
    (.running next sections callers, router.install processor)
  | .running (.route peer command next) sections callers =>
    let (program, router) := router.call peer command
    (.running program [] (⟨next, sections⟩ :: callers), router)
  | .running (.enter processor next) sections callers =>
    let (opened, router) := Scoped.enter router processor
    (.running next (opened :: sections) callers, router)
  | .running (.leave next) [] callers => (.running next [] callers, router)
  | .running (.leave next) (opened :: sections) callers =>
    (.running next sections callers, opened.leave router)

/-- Runs a thread on its own, for so many steps at most. -/
def run : Nat → Thread → Router → Outcome × Router
  | _, .finished outcome, router => (outcome, router)
  | 0, .running .., router => (.exhausted, router)
  | steps + 1, thread, router =>
    let (thread, router) := thread.step router
    run steps thread router

end Thread

/-- Threads that share a router. -/
structure Threads where
  threads : List Thread
  router : Router

/-- Moves one thread on by one step. -/
def Threads.step (system : Threads) (index : Nat) : Threads :=
  match system.threads[index]? with
  | none => system
  | some thread =>
    let (thread, router) := thread.step system.router
    ⟨system.threads.set index thread, router⟩

namespace Router

/-- Hands a command of a peer to the current processor and waits for the answer, for so many steps at
most. -/
def routeWithin (limit : Nat) (router : Router) (peer command : String) : Outcome × Router :=
  (Thread.ofProgram (.route peer command .answer)).run limit router

/-- The most steps that the processing of one command takes. -/
def stepLimit : Nat := 10000

/-- Hands a command of a peer to the current processor and waits for the answer. -/
def route (router : Router) (peer command : String) : Outcome × Router :=
  router.routeWithin stepLimit peer command

end Router

end Courier.Command
