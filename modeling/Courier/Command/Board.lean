import Courier.Command.Lock
import Courier.Command.Thread

/-! # Threads and processors at will

A board is what any number of threads do with one router. Neither the threads nor the processors have a
program here: whenever it is not the router's turn a thread may use it in every way there is, a thread that
runs a processor included, and processors end as they like. Every turn uses the lock once at most.
-/

namespace Courier.Command

/-- How far the routing of a command has got. -/
inductive Phase where
  /-- The processor is read and has not begun. -/
  | fetched
  | running
  /-- The processor is done, and its answer or panic is not handed on yet. -/
  | ended (outcome : Outcome)
  | closed (outcome : Outcome)
deriving DecidableEq

def Phase.isClosed : Phase → Bool
  | .closed _ => true
  | _ => false

/-- The routing of one command. -/
structure Call (P : Type) where
  thread : Nat
  peer : String
  command : String
  processor : P
  phase : Phase

/-- How a processor comes to take the place of another one: for good, for a section, or because a section
ends. -/
inductive Cause where
  | replace
  | enter
  | leave

namespace Board

/-- What is seen of a turn. Calls are known by number. -/
inductive Event (P : Type) where
  | obtained (thread : Nat) (answer : Except Reception.Error P)
  | replaced (thread : Nat) (cause : Cause) (installed : P) (answer : Except Reception.Error P)
  /-- A command is to be routed. Without a processor the call is over at once, with the same error. -/
  | asked (number thread : Nat) (peer command : String) (answer : Except Reception.Error P)
  | began (number : Nat) (processor : P) (peer command : String)
  | ended (number : Nat) (processor : P) (outcome : Outcome)
  /-- The call is over, by an answer or by panic. -/
  | returned (number : Nat) (outcome : Outcome)

/-- The uses of a router. -/
inductive Use (P : Type) where
  | obtain
  | replace (processor : P)
  /-- Begins a section: its guard keeps what was installed before. -/
  | enter (processor : P)
  /-- Drops a guard, known by its position among those that are left. -/
  | leave (position : Nat)
  | route (peer command : String)

inductive Move (P : Type) where
  | use (use : Use P)
  /-- The processor of the innermost call is done. -/
  | finish (outcome : Outcome)
  /-- The innermost call goes on by itself. -/
  | proceed

structure Turn (P : Type) where
  thread : Nat
  /-- Whether the thread is unwinding at that moment. -/
  unwinding : Bool := false
  move : Move P

end Board

/-- What threads that share a router have come to. -/
structure Board (P : Type) where
  lock : Lock P
  /-- What the guards of sections keep, for those not dropped yet. -/
  guards : List P := []
  calls : List (Call P) := []
  log : List (Board.Event P) := []

variable {P : Type}

namespace Call

/-- Whether a thread is in a call. -/
def isPending (thread : Nat) (call : Call P) : Bool := call.thread == thread && !call.phase.isClosed

/-- How a call goes on, if it does: with what its processor comes to, or by itself. -/
def next? (number : Nat) (call : Call P) : Option Outcome → Option (Phase × Board.Event P)
  | none =>
    match call.phase with
    | .fetched => some (.running, .began number call.processor call.peer call.command)
    | .ended outcome => some (.closed outcome, .returned number outcome)
    | _ => none
  | some outcome =>
    match call.phase with
    | .running => some (.ended outcome, .ended number call.processor outcome)
    | _ => none

end Call

namespace Board

/-- A board on which nothing has happened. -/
def start (processor : P) : Board P := { lock := { value := processor } }

/-- The last call that a thread is in. -/
def innermost? (board : Board P) (thread : Nat) : Option Nat :=
  (List.range board.calls.length).reverse.find? fun number =>
    board.calls[number]?.any (·.isPending thread)

/-- Whether it is not the router's turn on a thread: between reading a processor and handing the command to
it nothing else is done. -/
def isFree (board : Board P) (thread : Nat) : Bool :=
  match board.innermost? thread with
  | none => true
  | some number => board.calls[number]?.any (·.phase ≠ .fetched)

/-- Puts another processor behind the lock. -/
def swap (board : Board P) (thread : Nat) (unwinding : Bool) (cause : Cause) (processor : P) :
    Except Reception.Error P × Board P :=
  let (answer, lock) := board.lock.replace unwinding processor
  (answer, { board with lock, log := board.log ++ [.replaced thread cause processor answer] })

/-- Begins to route a command. -/
def ask (board : Board P) (thread : Nat) (peer command : String) : Board P :=
  let answer := board.lock.current
  let log := board.log ++ [.asked board.calls.length thread peer command answer]
  match answer with
  | .error _ => { board with log }
  | .ok processor =>
    { board with calls := board.calls ++ [{ thread, peer, command, processor, phase := .fetched }], log }

def perform (board : Board P) (thread : Nat) (unwinding : Bool) : Use P → Board P
  | .obtain => { board with log := board.log ++ [.obtained thread board.lock.current] }
  | .replace processor => (board.swap thread unwinding .replace processor).2
  | .enter processor =>
    match board.swap thread unwinding .enter processor with
    | (.error _, board) => board
    | (.ok previous, board) => { board with guards := board.guards ++ [previous] }
  | .leave position =>
    match board.guards[position]? with
    | none => board
    | some previous =>
      ({ board with guards := board.guards.eraseIdx position }.swap thread unwinding .leave previous).2
  | .route peer command => board.ask thread peer command

/-- The innermost call of a thread goes on. -/
def advance (board : Board P) (thread : Nat) (outcome? : Option Outcome) : Board P :=
  match board.innermost? thread with
  | none => board
  | some number =>
    match board.calls[number]? with
    | none => board
    | some call =>
      match call.next? number outcome? with
      | none => board
      | some (phase, event) =>
        { board with calls := board.calls.set number { call with phase }, log := board.log ++ [event] }

def step (board : Board P) (turn : Turn P) : Board P :=
  match turn.move with
  | .use use =>
    if board.isFree turn.thread then board.perform turn.thread turn.unwinding use else board
  | .finish outcome => board.advance turn.thread (some outcome)
  | .proceed => board.advance turn.thread none

def run (board : Board P) (turns : List (Turn P)) : Board P := turns.foldl step board

end Board

end Courier.Command
