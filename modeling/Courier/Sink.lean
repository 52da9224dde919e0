import Courier.Host
import Courier.Transport.Error

/-! # Sinks

Destinations without a receiver: a file that messages are appended to, one that forgets them, and one
that keeps the last. After a failed append a file is cut back to its size before, so no part of the
message stays in it.
-/

namespace Courier.Sink

/-- Appends a message to storage that behaves as the script says: the outcome and the content after. -/
def append (limit : Nat) (writes : List Frame.WriteEvent) (flushes : List (Option IoError))
    (content message : Bytes) : Except Frame.Error Unit × Bytes :=
  let drain : Frame.Drain := { writes, flushes, written := content }
  match Frame.Writer.sendEncoded ⟨limit, drain⟩ message with
  | (.ok (), writer) => (.ok (), writer.drain.written)
  | (.error error, writer) => (.error error, writer.drain.written.take content.length)

/-- A file that messages are appended to. -/
structure FileSink where
  path : String
  limit : Nat
  target : Store.Target
deriving DecidableEq

namespace FileSink

def shown (sink : FileSink) : String :=
  Text.record "FileSink" [("path", Text.quotePath sink.path)]

def «open» (host : Host) (path : String) (limit : Nat) :
    Except Transport.Error FileSink × Host :=
  match host.store.openAppend path with
  | .error error => (.error (.connect path error), host)
  | .ok (store, target) => (.ok { path, limit, target }, { host with store })

/-- What the writes to a file of the given size do when no file can grow past a limit. -/
def growth (sizeLimit : Option Nat) (size : Nat) : List Frame.WriteEvent :=
  match sizeLimit with
  | none => []
  | some limit =>
    if size < limit then [.accept (limit - size), .fail (.os 27)] else [.fail (.os 27)]

/-- What the next writes do. -/
def outlook (host : Host) (sink : FileSink) : List Frame.WriteEvent :=
  match sink.target with
  | .file id => growth host.sizeLimit (host.store.content id).length
  | .device full => if full then [.fail (.os 28)] else []

/-- The bytes that the target keeps; devices keep none. -/
def content (host : Host) (sink : FileSink) : Bytes :=
  match sink.target with
  | .file id => host.store.content id
  | .device _ => []

def setContent (host : Host) (sink : FileSink) (content : Bytes) : Host :=
  match sink.target with
  | .file id => { host with store := host.store.setContent id content }
  | .device _ => host

/-- Appends a message while writes and flushes do what the lists say. -/
def sendUnder (writes : List Frame.WriteEvent) (flushes : List (Option IoError))
    (host : Host) (sink : FileSink) (message : Bytes) : Except Transport.Error Unit × Host :=
  let (outcome, content) := append sink.limit writes flushes (sink.content host) message
  (outcome.mapError fun error => .send sink.path (Transport.Error.ofFrame error),
    sink.setContent host content)

def send (host : Host) (sink : FileSink) (message : Bytes) : Except Transport.Error Unit × Host :=
  sendUnder (sink.outlook host) [] host sink message

end FileSink

/-- Forgets what it is sent. -/
structure NullSink where
  discarded : Nat := 0
deriving DecidableEq

namespace NullSink

def shown (sink : NullSink) : String :=
  Text.record "NullSink" [("discarded", toString sink.discarded)]

def send (sink : NullSink) (_message : Bytes) : NullSink :=
  ⟨sink.discarded + 1⟩

end NullSink

/-- Keeps the last message it was sent. -/
structure DumpSink where
  last : Option Bytes := none
  sent : Nat := 0
deriving DecidableEq

namespace DumpSink

def shown (sink : DumpSink) : String :=
  Text.record "DumpSink"
    [("last", Text.optional (sink.last.map Text.quoteBytes)), ("sent", toString sink.sent)]

def send (sink : DumpSink) (message : Bytes) : DumpSink :=
  ⟨some message, sink.sent + 1⟩

end DumpSink

end Courier.Sink
