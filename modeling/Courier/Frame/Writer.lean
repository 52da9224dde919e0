import Courier.Frame.Wire

/-! # Writing frames

A `Drain` is a stream to write to, with a list of what its next writes and flushes will do; when the
list is used up everything is accepted. `Writer` sends whole frames through it: interrupted calls are
made again, and a write that takes nothing means that the stream is closed.
-/

namespace Courier.Frame

/-- What one write does: take at most so many bytes, or fail. -/
inductive WriteEvent where
  | accept (count : Nat)
  | fail (error : IoError)
deriving DecidableEq

/-- A stream to write to, and what went into it. -/
structure Drain where
  writes : List WriteEvent := []
  /-- What the next flushes do; `none` is success. -/
  flushes : List (Option IoError) := []
  written : Bytes := []
  writeCalls : Nat := 0
  flushCalls : Nat := 0
deriving DecidableEq

namespace Drain

/-- Writes as the script says: the outcome, the script left, the bytes taken and the calls made. -/
def writeScript : List WriteEvent → Bytes → Except Error Unit × List WriteEvent × Bytes × Nat
  | script, [] => (.ok (), script, [], 0)
  | [], bytes => (.ok (), [], bytes, 1)
  | .fail error :: script, bytes =>
    if error.isInterrupted then
      let (outcome, left, taken, calls) := writeScript script bytes
      (outcome, left, taken, calls + 1)
    else (.error (.io error), script, [], 1)
  | .accept 0 :: script, _ => (.error .connectionClosed, script, [], 1)
  | .accept (count + 1) :: script, bytes =>
    let (outcome, left, taken, calls) := writeScript script (bytes.drop (count + 1))
    (outcome, left, bytes.take (count + 1) ++ taken, calls + 1)

/-- Writes all the bytes, or as many as the stream takes before it fails. -/
def writeAll (drain : Drain) (bytes : Bytes) : Except Error Unit × Drain :=
  let (outcome, script, taken, calls) := writeScript drain.writes bytes
  (outcome, { drain with
    writes := script
    written := drain.written ++ taken
    writeCalls := drain.writeCalls + calls })

/-- Flushes as the script says: the outcome, the script left and the calls made. -/
def flushScript : List (Option IoError) → Except Error Unit × List (Option IoError) × Nat
  | [] => (.ok (), [], 1)
  | none :: script => (.ok (), script, 1)
  | some error :: script =>
    if error.isInterrupted then
      let (outcome, left, calls) := flushScript script
      (outcome, left, calls + 1)
    else (.error (.io error), script, 1)

def flush (drain : Drain) : Except Error Unit × Drain :=
  let (outcome, script, calls) := flushScript drain.flushes
  (outcome, { drain with flushes := script, flushCalls := drain.flushCalls + calls })

end Drain

/-- A stream to which whole frames are written. -/
structure Writer where
  limit : Nat
  drain : Drain

namespace Writer

/-- Flushes the stream; interrupted flushes are made again. -/
def flush (writer : Writer) : Except Error Unit × Writer :=
  let (outcome, drain) := writer.drain.flush
  (outcome, { writer with drain })

/-- Writes bytes that are ready for the stream and flushes it. -/
def sendBytes (writer : Writer) (bytes : Bytes) : Except Error Unit × Writer :=
  match writer.drain.writeAll bytes with
  | (.error error, drain) => (.error error, { writer with drain })
  | (.ok (), drain) => { writer with drain }.flush

/-- Writes one frame out of a scratch buffer that earlier calls may have used. The buffer is emptied and
the frame encoded into it before anything is written, so nothing is written of a frame that is refused. -/
def sendThrough (writer : Writer) (scratch : Bytes) (frame : Frame) :
    Except Error Unit × Writer × Bytes :=
  if frame.payload.length > writer.limit then
    (.error (.payloadTooLarge frame.payload.length writer.limit), writer, scratch)
  else
    match frame.encodeInto (scratch.take 0) with
    | (.error error, scratch) => (.error error, writer, scratch)
    | (.ok (), scratch) =>
      let (outcome, writer) := writer.sendBytes scratch
      (outcome, writer, scratch)

/-- Writes one frame that is given by its parts. -/
def sendParts (writer : Writer) (scratch : Bytes) (provider : String) (answerId : UInt64) (kind : Kind)
    (payload : Bytes) : Except Error Unit × Writer × Bytes :=
  writer.sendThrough scratch ⟨provider, answerId, kind, payload⟩

/-- Writes one frame. -/
def send (writer : Writer) (frame : Frame) : Except Error Unit × Writer :=
  let (outcome, writer, _) := writer.sendThrough [] frame
  (outcome, writer)

/-- Writes bytes that already are one encoded frame. -/
def sendEncoded (writer : Writer) (bytes : Bytes) : Except Error Unit × Writer :=
  let size := bytes.length - headerSize
  if size > writer.limit then (.error (.payloadTooLarge size writer.limit), writer)
  else writer.sendBytes bytes

end Writer

end Courier.Frame
