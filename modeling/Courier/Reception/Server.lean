import Courier.Reception.Error
import Courier.Reception.Pool
import Courier.Transport.Basic

/-! # The reception server

A server binds a queue when it is started, lets a pool of workers handle its messages, and gives the
queue up when it is stopped. Its tally is kept from one start to the next.
-/

namespace Courier.Reception

structure ServerConfig where
  /-- Workers to run; none is taken as one. -/
  workers : Nat := 2
  /-- The largest message accepted. -/
  capacity : Nat := 262144
  pollInterval : Span := .ofMillis 250
deriving DecidableEq

/-- How long a worker waits for a message at a time. -/
def ServerConfig.readTimeout (config : ServerConfig) : Span :=
  ⟨max config.pollInterval.nanos (Span.ofMillis 1).nanos⟩

@[simp] theorem ServerConfig.setReadTimeout_readTimeout (config : ServerConfig) :
    Queue.Receiver.setReadTimeout config.readTimeout = .ok () := by
  have hpositive : 0 < config.readTimeout.nanos :=
    Nat.lt_of_lt_of_le (by decide) (Nat.le_max_right config.pollInterval.nanos (Span.ofMillis 1).nanos)
  rw [Queue.Receiver.setReadTimeout, if_neg]
  intro hzero
  exact Nat.ne_of_gt hpositive (congrArg Span.nanos hzero)

structure Server where
  address : String
  access : Access
  config : ServerConfig := {}
  /-- The bound queue of a server that runs. -/
  queue : Option Queue.Receiver := none
  pool : Pool := {}
deriving DecidableEq

namespace Server

variable {σ : Type}

def isRunning (server : Server) : Bool := server.queue.isSome

/-- The path of the bound queue. -/
def path? (server : Server) : Option String := server.queue.map (·.path)

def shown (server : Server) : String :=
  Text.record "ReceptionServer"
    [("address", Text.quote server.address), ("level", server.access.label),
      ("config", Text.record "ServerConfig"
        [("workers", toString server.config.workers),
          ("capacity", toString server.config.capacity),
          ("poll_interval", server.config.pollInterval.text)]),
      ("running", toString server.isRunning)]

/-- Opens the queue of a server. -/
def openQueue (host : Host) (server : Server) : Except Error Queue.Receiver × Host :=
  match Transport.portOfParts Backend.localQueue.tag server.address with
  | .error error => (.error (.transport error), host)
  | .ok port =>
    let (outcome, host) := Transport.openReceive host port server.config.capacity server.access
    (outcome.mapError .transport, host)

/-- Binds the queue and sets the workers going. A queue whose workers cannot wait for messages is given up
again, and a worker that gets no buffer for messages is at its end at once. -/
def start (host : Host) (server : Server) : Except Error Unit × Host × Server :=
  if server.isRunning then (.error (.alreadyRunning server.address), host, server)
  else
    match server.openQueue host with
    | (.error error, host) => (.error error, host, server)
    | (.ok receiver, host) =>
      match Queue.Receiver.setReadTimeout server.config.readTimeout with
      | .error error => (.error (.transport error), receiver.drop host, server)
      | .ok () =>
        (.ok (), host, { server with
          queue := some receiver
          pool := { server.pool with
            running := true
            phases := List.replicate (max server.config.workers 1)
              (if receiver.hasBuffer then .idle else .done) } })

/-- Lets a running server handle what is queued. -/
def settle (handler : Handler σ) (host : Host) (server : Server) (state : σ) : Server × Host × σ :=
  match server.queue with
  | none => (server, host, state)
  | some receiver =>
    let (pool, host, state) := server.pool.settle handler receiver host state
    ({ server with pool }, host, state)

/-- Ends the workers, after the messages in their hands, and gives up the queue. -/
def stop (handler : Handler σ) (host : Host) (server : Server) (state : σ) : Server × Host × σ :=
  match server.queue with
  | none => ({ server with pool := { server.pool with running := false } }, host, state)
  | some receiver =>
    let pool := { server.pool with running := false }
    let (pool, host, state) := pool.finish handler receiver (receiver.wake host) state
    ({ server with queue := none, pool := { pool with phases := [] } }, receiver.drop host, state)

end Server

end Courier.Reception
