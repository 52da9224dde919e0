import Courier.Cli.Arguments
import Courier.Cli.Exit
import Courier.Cli.Timeout
import Courier.Transport.Basic

/-! # Sending from the command line

`send` makes one frame and hands it to one port. All that can be wrong with the arguments is found before
the port is opened.
-/

namespace Courier.Cli.Send

/-- The answer id of a frame: the given one, else the time for a segment, else zero. -/
def answerId (clock : UInt64) (arguments : SendArguments) : UInt64 :=
  match arguments.answerId with
  | some id => id
  | none => if arguments.kind = .segment then clock else 0

def config (arguments : SendArguments) : Except Failure StreamConfig :=
  match arguments.timeout with
  | none => .ok {}
  | some text =>
    match parseTimeout text with
    | .error fault => .error ⟨Exit.usage, fault.message⟩
    | .ok span => .ok { writeTimeout := some span }

/-- The payload: the data given, else the content of the file, else nothing. -/
def payload (store : Store) (arguments : SendArguments) : Except Failure Bytes :=
  match arguments.data, arguments.file with
  | some text, _ => .ok (Text.utf8 text)
  | none, some path => (store.contentAt path).mapError (Exit.ofIo ("failed reading " ++ path))
  | none, none => .ok []

/-- What is to be sent, and where: all that is known before anything is opened. -/
structure Order where
  port : Port
  config : StreamConfig
  frame : Frame
  bytes : Bytes

def order (clock : UInt64) (store : Store) (arguments : SendArguments) : Except Failure Order := do
  let port ← (Transport.readPort arguments.port).mapError (Exit.ofTransport "invalid port")
  let config ← config arguments
  let payload ← payload store arguments
  let frame : Frame := ⟨arguments.peer, answerId clock arguments, arguments.kind, payload⟩
  let bytes ← frame.encode.mapError (Exit.ofFrame "encode failed")
  return ⟨port, config, frame, bytes⟩

/-- What is reported of an order that was sent. -/
def report (order : Order) (transport : Transport) : Report where
  port := order.port.text
  transport := transport.name
  kind := order.frame.kind.name
  provider := order.frame.provider
  answerId := order.frame.answerId
  payloadSize := order.frame.payload.length
  frameSize := order.bytes.length

/-- Opens the port of an order and sends its frame. -/
def dispatch (host : Host) (order : Order) : Except Failure Transport × Host :=
  match Transport.openSend host order.port order.config with
  | (.error error, host) => (.error (Exit.ofTransport "open failed" error), host)
  | (.ok transport, host) =>
    match transport.send host order.bytes with
    | (.error error, host, _) => (.error (Exit.ofTransport "send failed" error), host)
    | (.ok (), host, transport) => (.ok transport, host)

def run (clock : UInt64) (host : Host) (arguments : SendArguments) (format : Format) :
    Except Failure Output × Host :=
  match order clock host.store arguments with
  | .error failure => (.error failure, host)
  | .ok order =>
    match dispatch host order with
    | (.error failure, host) => (.error failure, host)
    | (.ok transport, host) => (.ok { stdout := printReport format (report order transport) }, host)

end Courier.Cli.Send
