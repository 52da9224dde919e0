import Courier.Queue.Receiver
import Courier.Reception.Handler
import Courier.Reception.Tally

/-! # The pool of workers

Workers share one queue, one tally and one flag that lets them go on. Each is at some phase of its loop,
and `Pool.step` moves one of them on by one step, so that every order of steps can be described.
-/

namespace Courier.Reception

/-- Where a worker is in its loop. -/
inductive Phase where
  /-- About to look at the flag. -/
  | idle
  /-- About to take a message from the queue. -/
  | receiving
  /-- Has taken a message and is about to look at the flag again. -/
  | holding (message : Bytes)
  /-- Has counted its message as received and is about to handle it. -/
  | handling (message : Bytes)
  /-- Has handled its message and is about to count the verdict. -/
  | judged (verdict : Verdict)
  /-- Has met a message that is too large. -/
  | oversized
  /-- Has counted the message that is too large as received. -/
  | oversizedCounted
  | done
deriving DecidableEq

structure Pool where
  running : Bool := false
  phases : List Phase := []
  tally : Tally := {}
deriving DecidableEq

/-- Counts what became of a message. -/
def Tally.count (tally : Tally) : Verdict → Tally
  | .accepted => { tally with accepted := tally.accepted + 1 }
  | .rejected => { tally with rejected := tally.rejected + 1 }
  | .panicked _ => { tally with failed := tally.failed + 1 }

namespace Pool

variable {σ : Type}

/-- The phase after taking from the queue. -/
def taken : Except Transport.Error (Option Bytes) → Phase
  | .ok (some message) => .holding message
  | .ok none => .idle
  | .error (.messageTooLarge ..) => .oversized
  | .error _ => .idle

/-- The next step of a worker at the given phase: its new phase and what else it changes. -/
def advance (handler : Handler σ) (receiver : Queue.Receiver) (pool : Pool) (host : Host) (state : σ) :
    Phase → Phase × Tally × Host × σ
  | .idle => (if pool.running then .receiving else .done, pool.tally, host, state)
  | .receiving =>
    let (outcome, host) := receiver.receive host receiver.bufferSize
    (taken outcome, pool.tally, host, state)
  | .holding message =>
    if pool.running then
      (.handling message, { pool.tally with received := pool.tally.received + 1 }, host, state)
    else (.done, pool.tally, host, state)
  | .handling message =>
    let (verdict, state) := handler message state
    (.judged verdict, pool.tally, host, state)
  | .judged verdict => (.idle, pool.tally.count verdict, host, state)
  | .oversized =>
    (.oversizedCounted, { pool.tally with received := pool.tally.received + 1 }, host, state)
  | .oversizedCounted => (.idle, { pool.tally with failed := pool.tally.failed + 1 }, host, state)
  | .done => (.done, pool.tally, host, state)

/-- Moves one worker on by one step. -/
def step (handler : Handler σ) (receiver : Queue.Receiver) (worker : Nat)
    (pool : Pool) (host : Host) (state : σ) : Pool × Host × σ :=
  match pool.phases[worker]? with
  | none => (pool, host, state)
  | some phase =>
    let (phase, tally, host, state) := pool.advance handler receiver host state phase
    ({ pool with phases := pool.phases.set worker phase, tally }, host, state)

/-- Moves one worker on by a number of steps. -/
def steps (handler : Handler σ) (receiver : Queue.Receiver) (worker : Nat) :
    Nat → Pool → Host → σ → Pool × Host × σ
  | 0, pool, host, state => (pool, host, state)
  | count + 1, pool, host, state =>
    let (pool, host, state) := pool.step handler receiver worker host state
    steps handler receiver worker count pool host state

/-- The most steps that a worker needs for one message, from idle to idle. -/
def stepsPerMessage : Nat := 5

/-- Lets the first worker handle everything that is queued. -/
def settle (handler : Handler σ) (receiver : Queue.Receiver) (pool : Pool) (host : Host) (state : σ) :
    Pool × Host × σ :=
  let queued := ((host.endpoints.get? receiver.socket).map (·.queue.length)).getD 0
  steps handler receiver 0 (stepsPerMessage * (queued + 1)) pool host state

/-- Lets every worker come to its end after the flag has been taken away. -/
def finish (handler : Handler σ) (receiver : Queue.Receiver) (pool : Pool) (host : Host) (state : σ) :
    Pool × Host × σ :=
  (List.range pool.phases.length).foldl
    (fun (pool, host, state) worker =>
      steps handler receiver worker (stepsPerMessage + 1) pool host state)
    (pool, host, state)

end Pool

end Courier.Reception
