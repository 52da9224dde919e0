import Courier.Host
import Courier.Network.Address
import Courier.Transport.Error

/-! # Sending over the network

A sender connects at its first message and keeps the connection. A failed write ends the connection, so
that nothing ever follows a torn message on it, and the next message opens a new one.
-/

namespace Courier.Network

structure Sender where
  address : String
  limit : Nat
  timeout : Option Span
  /-- The number of the open connection among those of the host. -/
  connection : Option Nat := none
deriving DecidableEq

namespace Sender

def «open» (address : String) (limit : Nat) (timeout : Option Span) : Except Transport.Error Sender :=
  match Address.parse address with
  | .error fault => .error (.invalidAddress Backend.network.tag address fault.message)
  | .ok _ => .ok { address, limit, timeout }

def isConnected (sender : Sender) : Bool := sender.connection.isSome

def shown (sender : Sender) : String :=
  Text.record "NetworkSender"
    [("address", Text.quote sender.address), ("connected", toString sender.isConnected)]

/-- What stands against a connection. The address of a host on one link is no use without the link, and
the host's own name needs no lookup. -/
def refusal (attempt : Attempt) : Destination → Option IoError
  | .ofBytes _ => attempt.refusal
  | .ofGroups groups scope =>
    if Destination.isLinkLocal groups ∧ scope = 0 then some (.os 22)
    else if Destination.isMapped groups ∨ Destination.isMulticast groups then attempt.refusal
    else attempt.groupsRefusal
  | .ofName name =>
    if Destination.isOwnName name then attempt.refusal else attempt.lookupFault <|> attempt.refusal

/-- Makes a connection. A write timeout of no time at all cannot be set on one. -/
def connect (host : Host) (sender : Sender) : Except IoError (Nat × Host) :=
  match Destination.ofAddress sender.address with
  | .error error => .error error
  | .ok destination =>
    match refusal host.outlook destination with
    | some error => .error error
    | none =>
      let drain : Frame.Drain :=
        { writes := host.outlook.writes, flushes := host.outlook.flushes }
      if sender.timeout = some ⟨0⟩ then
        .error (.described .invalidInput "cannot set a 0 duration timeout")
      else .ok (host.connections.length, { host with connections := host.connections ++ [drain] })

/-- Sends over an open connection. -/
def sendOn (host : Host) (sender : Sender) (connection : Nat) (message : Bytes) :
    Except Transport.Error Unit × Host × Sender :=
  let drain := host.connections.getD connection {}
  let (outcome, writer) := Frame.Writer.sendEncoded ⟨sender.limit, drain⟩ message
  let host := { host with connections := host.connections.set connection writer.drain }
  match outcome with
  | .ok () => (.ok (), host, { sender with connection := some connection })
  | .error error =>
    (.error (.send sender.address (Transport.Error.ofFrame error)), host, { sender with connection := none })

/-- Sends a message, over a new connection if none is open. -/
def send (host : Host) (sender : Sender) (message : Bytes) :
    Except Transport.Error Unit × Host × Sender :=
  match sender.connection with
  | some connection => sendOn host sender connection message
  | none =>
    match connect host sender with
    | .error error => (.error (.connect sender.address error), host, sender)
    | .ok (connection, host) => sendOn host sender connection message

end Sender

end Courier.Network
