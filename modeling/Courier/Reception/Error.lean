import Courier.Transport.Error

/-! # What can go wrong with receiving -/

namespace Courier.Reception

inductive Error where
  | transport (error : Transport.Error)
  | frame (error : Frame.Error)
  | router (reason : String)
  /-- The server of this address has been started already. -/
  | alreadyRunning (address : String)
  | spawn (error : IoError)
deriving DecidableEq

/-- A short name for each cause. -/
def Error.label : Error → String
  | .transport _ => "Transport"
  | .frame _ => "Frame"
  | .router _ => "Router"
  | .alreadyRunning _ => "AlreadyRunning"
  | .spawn _ => "Spawn"

def Error.message : Error → String
  | .transport error => "transport error: " ++ error.message
  | .frame error => "frame error: " ++ error.message
  | .router reason => "command router unavailable: " ++ reason
  | .alreadyRunning address => s!"reception server for '{address}' is already running"
  | .spawn error => "failed to spawn worker: " ++ error.message

end Courier.Reception
