import Courier.IoError
import Courier.Text.Utf8

/-! # What can be wrong with a frame

The causes for which a frame is not written, read or delivered. `Error.isDecoding` separates faults in
the content of a frame from faults of the stream and of its limits.
-/

namespace Courier.Frame

inductive Error where
  /-- Fewer bytes than a header needs. -/
  | truncated (size need : Nat)
  | invalidMagic
  | unsupportedVersion (version : UInt8)
  | unknownKind (tag : UInt8)
  /-- The header announces another payload size than the message has. -/
  | lengthMismatch (declared actual : Nat)
  | invalidProvider (reason : String)
  | invalidText (fault : Text.Utf8Fault)
  | payloadTooLarge (size max : Nat)
  | io (error : IoError)
  /-- The stream ended, or took no more bytes. -/
  | connectionClosed
deriving DecidableEq

namespace Error

def message : Error → String
  | truncated size need => s!"truncated frame ({size} bytes, header needs {need})"
  | invalidMagic => "invalid frame magic (expected 0x4143 \"AC\")"
  | unsupportedVersion version => s!"unsupported frame version {version}"
  | unknownKind tag => s!"unknown frame kind tag {tag}"
  | lengthMismatch declared actual =>
    s!"payload length mismatch (header declares {declared} bytes, got {actual})"
  | invalidProvider reason => "invalid provider id: " ++ reason
  | invalidText fault => "payload is not valid UTF-8: " ++ fault.message
  | payloadTooLarge size max => s!"payload too large ({size} bytes, max {max})"
  | io error => "frame I/O error: " ++ error.message
  | connectionClosed => "connection closed (incomplete frame)"

/-- A short name for each cause. -/
def label : Error → String
  | truncated .. => "Truncated"
  | invalidMagic => "InvalidMagic"
  | unsupportedVersion _ => "UnsupportedVersion"
  | unknownKind _ => "UnknownKind"
  | lengthMismatch .. => "LengthMismatch"
  | invalidProvider _ => "InvalidProviderId"
  | invalidText _ => "InvalidText"
  | payloadTooLarge .. => "PayloadTooLarge"
  | io _ => "Io"
  | connectionClosed => "ConnectionClosed"

/-- Whether the content of the frame is at fault. -/
def isDecoding : Error → Bool
  | truncated .. | invalidMagic | unsupportedVersion _ | unknownKind _ | lengthMismatch ..
  | invalidProvider _ | invalidText _ => true
  | payloadTooLarge .. | io _ | connectionClosed => false

end Error

end Courier.Frame
