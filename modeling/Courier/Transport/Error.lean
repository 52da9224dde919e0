import Courier.Frame.Error
import Courier.Port

/-! # What can go wrong with a destination

The causes for which a destination is not opened, or does not take or give a message.
-/

namespace Courier.Transport

inductive Error where
  | invalidPort (port : String) (fault : Port.Fault)
  | invalidAddress (backend address reason : String)
  | unsupported (backend operation : String)
  | bind (path : String) (error : IoError)
  | connect (target : String) (error : IoError)
  | send (target : String) (error : IoError)
  /-- A received message is larger than its queue allows. -/
  | messageTooLarge (size max : Nat)
  | io (error : IoError)
  | pathTooLong (path : String) (size max : Nat)
deriving DecidableEq

namespace Error

def message : Error → String
  | invalidPort port fault => s!"invalid port descriptor '{port}': " ++ fault.message
  | invalidAddress backend address reason => s!"invalid {backend} address '{address}': {reason}"
  | unsupported backend operation => s!"unsupported backend '{backend}' for {operation}"
  | bind path error => s!"failed to bind to {path}: " ++ error.message
  | connect target error => s!"failed to connect to {target}: " ++ error.message
  | send target error => s!"failed to send to {target}: " ++ error.message
  | messageTooLarge size max => s!"message too large ({size} bytes, capacity {max})"
  | io error => "transport I/O error: " ++ error.message
  | pathTooLong path size max => s!"socket path too long ({size} bytes, max {max}): {path}"

/-- A short name for each cause. -/
def label : Error → String
  | invalidPort .. => "InvalidPort"
  | invalidAddress .. => "InvalidAddress"
  | unsupported .. => "Unsupported"
  | bind .. => "Bind"
  | connect .. => "Connect"
  | send .. => "Send"
  | messageTooLarge .. => "MessageTooLarge"
  | io _ => "Io"
  | pathTooLong .. => "PathTooLong"

/-- Whether a port or an address is malformed. -/
def isParse : Error → Bool
  | invalidPort .. | invalidAddress .. => true
  | _ => false

/-- What a fault of a frame is to a stream that was to carry it. -/
def ofFrame : Frame.Error → IoError
  | .io error => error
  | error => .described .other error.message

end Error

end Courier.Transport
