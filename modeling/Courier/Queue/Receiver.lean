import Courier.Host
import Courier.Queue.Name

/-! # Receiving from a queue

Binding a queue puts a socket at its path: whatever else stands there, a socket that has a receiver
included, is left alone, and only a socket that nobody receives from is replaced. A receiver that is
dropped removes the entry at its path if it is still the socket that it made.
-/

namespace Courier.Queue

structure Receiver where
  name : String
  path : String
  /-- The largest message that is received whole. -/
  capacity : Nat
  socket : Nat
deriving DecidableEq

namespace Receiver

/-- What receivers are called among the transports. -/
def transportName : String := "unix-datagram-queue"

def shown (receiver : Receiver) : String :=
  Text.record "LocalQueueReceiver"
    [("name", Text.quote receiver.name), ("path", Text.quotePath receiver.path),
      ("capacity", toString receiver.capacity)]

/-- Removes a socket without a receiver from a path; anything else there is an error. -/
def clearPath (host : Host) (path : String) : Except IoError Host :=
  match host.store.lookup .entry path with
  | .ok (place, .socket id) =>
    match host.probe id with
    | .error error => .error error
    | .ok true => .error (.described .addrInUse "queue is already bound by a live receiver")
    | .ok false => .ok { host with store := host.store.removeTree place }
  | .ok _ => .error (.described .alreadyExists "existing path is not a unix socket")
  | .error _ => .ok host

/-- Makes the socket of a queue at its path. What was cleared away stays away if that fails. -/
def bindPath (host : Host) (path : String) (access : Access) : Except IoError Nat × Host :=
  match clearPath host path with
  | .error error => (.error error, host)
  | .ok host =>
    match host.makeSocket path { access } with
    | .error error => (.error error, host)
    | .ok (socket, host) => (.ok socket, host)

/-- Binds a queue. Directories missing above its path are made even if binding fails after that. -/
def bind (host : Host) (name : String) (capacity : Nat) (access : Access) :
    Except Transport.Error Receiver × Host :=
  match resolveName host.queueDirectory name with
  | .error error => (.error error, host)
  | .ok path =>
    if Host.socketPathLimit ≤ path.utf8ByteSize then
      (.error (.pathTooLong path path.utf8ByteSize Host.socketPathLimit), host)
    else
      let (outcome, store) := host.store.makeParents path
      let host := { host with store }
      match outcome with
      | .error error => (.error (.bind path error), host)
      | .ok () =>
        match bindPath host path access with
        | (.error error, host) => (.error (.bind path error), host)
        | (.ok socket, host) => (.ok { name, path, capacity, socket }, host)

/-- The size of a buffer for every message: one more than the capacity, to tell larger ones apart. -/
def bufferSize (receiver : Receiver) : Nat := receiver.capacity + 1

/-- The largest buffer that can be made. -/
def largestBuffer : Nat := 9223372036854775807

/-- To ask for a larger buffer is a panic, as it is to ask for a size that does not fit in 64 bits: a worker
is at its end then before it has received anything. -/
def hasBuffer (receiver : Receiver) : Bool := decide (receiver.bufferSize ≤ largestBuffer)

/-- Sets how long a receive waits for a message. To wait for no time at all cannot be set. -/
def setReadTimeout (timeout : Span) : Except Transport.Error Unit :=
  if timeout = ⟨0⟩ then .error (.io (.described .invalidInput "cannot set a 0 duration timeout"))
  else .ok ()

/-- Takes the next message into a buffer that cuts it to its own size. Without a message the answer is
`none`, or an empty message once the receiver was woken. -/
def receive (host : Host) (receiver : Receiver) (size : Nat) :
    Except Transport.Error (Option Bytes) × Host :=
  match host.endpoints.get? receiver.socket with
  | none => (.ok none, host)
  | some endpoint =>
    match endpoint.queue with
    | [] => (.ok (if endpoint.isWoken then some [] else none), host)
    | message :: queue =>
      let host := host.setEndpoint receiver.socket { endpoint with queue }
      let taken := message.take size
      if receiver.capacity < taken.length then
        (.error (.messageTooLarge taken.length receiver.capacity), host)
      else (.ok (some taken), host)

/-- Wakes everyone who waits for a message. -/
def wake (host : Host) (receiver : Receiver) : Host :=
  match host.endpoints.get? receiver.socket with
  | none => host
  | some endpoint => host.setEndpoint receiver.socket { endpoint with isWoken := true }

/-- Whether the entry at the path of a receiver is the socket that it made. -/
def ownsPath (host : Host) (receiver : Receiver) : Bool :=
  match host.store.lookup .entry receiver.path with
  | .ok (_, .socket id) => id == receiver.socket
  | _ => false

/-- Ends receiving. The entry at the path is removed if it is still the receiver's own socket. -/
def drop (host : Host) (receiver : Receiver) : Host :=
  let store :=
    match host.store.lookup .entry receiver.path with
    | .ok (place, .socket id) =>
      if id = receiver.socket then host.store.removeTree place else host.store
    | _ => host.store
  { host with store, endpoints := host.endpoints.erase receiver.socket }

end Receiver

end Courier.Queue
