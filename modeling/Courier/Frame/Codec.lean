import Courier.Frame.Stream
import Courier.Text.Record

/-! # A codec over one buffer

Frames are encoded to the end of a buffer and decoded from its front, within one limit on the payload.
-/

namespace Courier.Frame

structure Codec where
  limit : Nat := defaultPayloadLimit

namespace Codec

def shown (codec : Codec) : String :=
  Text.record "FrameCodec" [("max_payload_size", toString codec.limit)]

/-- Encodes a frame to the end of the buffer; the buffer stays as it is if the frame is refused. The limit
is checked before the frame itself. -/
def encodeInto (codec : Codec) (frame : Frame) (buffer : Bytes) : Except Error Unit × Bytes :=
  if frame.payload.length > codec.limit then
    (.error (.payloadTooLarge frame.payload.length codec.limit), buffer)
  else frame.encodeInto buffer

/-- The buffer with a frame at its end. -/
def encode (codec : Codec) (frame : Frame) (buffer : Bytes) : Except Error Bytes :=
  let (outcome, buffer) := codec.encodeInto frame buffer
  outcome.map fun _ => buffer

def decode (codec : Codec) (buffer : Bytes) : Except Error (Option (Frame × Bytes)) :=
  take? codec.limit buffer

/-- Decodes when no more bytes will come: an incomplete frame is a fault. -/
def decodeEnd (codec : Codec) (buffer : Bytes) : Except Error (Option (Frame × Bytes)) :=
  match codec.decode buffer with
  | .ok none =>
    if buffer.isEmpty then .ok none
    else .error (.io (.described .other "bytes remaining on stream"))
  | outcome => outcome

end Codec

end Courier.Frame
