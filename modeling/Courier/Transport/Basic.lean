import Courier.Network.Sender
import Courier.Queue.Receiver
import Courier.Queue.Sender
import Courier.Sink

/-! # Transports

A transport is an open destination, one alternative for each backend. Only queues can be received from.
-/

namespace Courier

/-- What is common to the transports that write streams. -/
structure StreamConfig where
  limit : Nat := Frame.defaultPayloadLimit
  writeTimeout : Option Span := none
deriving DecidableEq

def StreamConfig.shown (config : StreamConfig) : String :=
  Text.record "FrameConfig"
    [("max_payload_size", toString config.limit), ("read_timeout", "None"),
      ("write_timeout", Text.optional (config.writeTimeout.map (·.text)))]

inductive Transport where
  | queue (sender : Queue.Sender)
  | network (sender : Network.Sender)
  | file (sink : Sink.FileSink)
  | null (sink : Sink.NullSink)
  | dump (sink : Sink.DumpSink)
deriving DecidableEq

namespace Transport

def backend : Transport → Backend
  | queue _ => .localQueue
  | network _ => .network
  | file _ => .file
  | null _ => .null
  | dump _ => .dump

def name : Transport → String
  | queue _ => "local-queue"
  | network _ => "network"
  | file _ => "file-sink"
  | null _ => "null-sink"
  | dump _ => "dump-sink"

def shown : Transport → String
  | queue sender => Text.wrapped "LocalQueue" sender.shown
  | network sender => Text.wrapped "Network" sender.shown
  | file sink => Text.wrapped "FileSink" sink.shown
  | null sink => Text.wrapped "NullSink" sink.shown
  | dump sink => Text.wrapped "DumpSink" sink.shown

/-- Reads the text of a port. -/
def readPort (text : String) : Except Error Port :=
  (Port.parse text).mapError (.invalidPort text)

/-- The port with the given parts. -/
def portOfParts (tag address : String) : Except Error Port :=
  (Port.ofParts tag address).mapError (.invalidPort (Port.join tag address))

/-- Opens a port for sending. -/
def openSend (host : Host) (port : Port) (config : StreamConfig) : Except Error Transport × Host :=
  match port.backend? with
  | none => (.error (.unsupported port.tag "send"), host)
  | some .localQueue => ((Queue.Sender.open host port.address).map queue, host)
  | some .network =>
    ((Network.Sender.open port.address config.limit config.writeTimeout).map network, host)
  | some .file =>
    let (outcome, host) := Sink.FileSink.open host port.address config.limit
    (outcome.map file, host)
  | some .null => (.ok (null {}), host)
  | some .dump => (.ok (dump {}), host)

/-- Binds the queue of a port. -/
def openReceive (host : Host) (port : Port) (capacity : Nat) (access : Access) :
    Except Error Queue.Receiver × Host :=
  match port.backend? with
  | some .localQueue => Queue.Receiver.bind host port.address capacity access
  | _ => (.error (.unsupported port.tag "receive"), host)

/-- Sends bytes that are one encoded frame. -/
def send (host : Host) (transport : Transport) (message : Bytes) :
    Except Error Unit × Host × Transport :=
  match transport with
  | queue sender =>
    let (outcome, host) := sender.send host message
    (outcome, host, queue sender)
  | network sender =>
    let (outcome, host, sender) := sender.send host message
    (outcome, host, network sender)
  | file sink =>
    let (outcome, host) := sink.send host message
    (outcome, host, file sink)
  | null sink => (.ok (), host, null (sink.send message))
  | dump sink => (.ok (), host, dump (sink.send message))

end Transport

end Courier
