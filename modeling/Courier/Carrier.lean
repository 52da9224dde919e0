import Courier.Transport.Basic

/-! # Carriers

A carrier sends messages to one destination at a time and answers only whether it worked. It remembers
the last port that it could read, even when it could not connect to it or has been shut down since.
-/

namespace Courier

structure Carrier where
  port : Option Port := none
  transport : Option Transport := none
  config : StreamConfig := {}
deriving DecidableEq

namespace Carrier

/-- The provider id of messages that are sent on the program's own behalf. -/
def mainPeer : String := "main"

/-- The tag of the last port. -/
def name (carrier : Carrier) : String := (carrier.port.map (·.tag)).getD ""

/-- The address of the last port. -/
def address (carrier : Carrier) : String := (carrier.port.map (·.address)).getD ""

def isConnected (carrier : Carrier) : Bool := carrier.transport.isSome

def shown (carrier : Carrier) : String :=
  Text.record "Carrier"
    [("port", Text.optional (carrier.port.map (·.shown))),
      ("transport", Text.optional (carrier.transport.map (·.shown))),
      ("config", carrier.config.shown)]

/-- Closes the connection, if there is one. -/
def shutdown (carrier : Carrier) : Carrier :=
  { carrier with transport := none }

/-- Connects to a port, after closing any connection before. -/
def establish (host : Host) (carrier : Carrier) (port : String) : Bool × Host × Carrier :=
  match Port.parse port with
  | .error _ => (false, host, { carrier with port := none, transport := none })
  | .ok port =>
    match Transport.openSend host port carrier.config with
    | (.error _, host) => (false, host, { carrier with port := some port, transport := none })
    | (.ok transport, host) =>
      (true, host, { carrier with port := some port, transport := some transport })

/-- Sends a frame over the connection. -/
def send (host : Host) (carrier : Carrier) (frame : Frame) : Bool × Host × Carrier :=
  match carrier.transport with
  | none => (false, host, carrier)
  | some transport =>
    match frame.encode with
    | .error _ => (false, host, carrier)
    | .ok bytes =>
      let (outcome, host, transport) := transport.send host bytes
      (outcome.isOk, host, { carrier with transport := some transport })

def sendSegment (host : Host) (carrier : Carrier) (peer : String) (answerId : UInt64)
    (data : Bytes) : Bool × Host × Carrier :=
  carrier.send host ⟨peer, answerId, .segment, data⟩

def sendLog (host : Host) (carrier : Carrier) (peer text : String) : Bool × Host × Carrier :=
  carrier.send host ⟨peer, 0, .log, Text.utf8 text⟩

def sendYaml (host : Host) (carrier : Carrier) (peer text : String) : Bool × Host × Carrier :=
  carrier.send host ⟨peer, 0, .yaml, Text.utf8 text⟩

def sendCommand (host : Host) (carrier : Carrier) (peer text : String) : Bool × Host × Carrier :=
  carrier.send host ⟨peer, 0, .command, Text.utf8 text⟩

/-- Sends one command to a queue on the program's own behalf. -/
def inform (host : Host) (queue command : String) : Bool × Host :=
  match ({} : Carrier).establish host (Port.join Backend.localQueue.tag queue) with
  | (false, host, _) => (false, host)
  | (true, host, carrier) =>
    let (outcome, host, _) := carrier.sendCommand host mainPeer command
    (outcome, host)

end Carrier

end Courier
