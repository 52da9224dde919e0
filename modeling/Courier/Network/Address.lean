import Courier.Text.Decimal

/-! # Network addresses

An address is a host and a port number with a colon between them. The last colon separates them, so a
host may hold colons itself.
-/

namespace Courier.Network

/-- Why a text is no address, in the order of the checks. -/
inductive AddressFault where
  | missingColon
  | emptyHost
  | invalidPort (port : String) (fault : Text.DecimalFault)
  | zeroPort
deriving DecidableEq

def AddressFault.message : AddressFault → String
  | .missingColon => "expected host:port"
  | .emptyHost => "empty host"
  | .invalidPort port fault => s!"invalid port '{port}': " ++ fault.message
  | .zeroPort => "port must be non-zero"

/-- A host and a port number other than zero. -/
structure Address where
  host : String
  port : Nat
deriving DecidableEq

def largestPort : Nat := 65535

/-- The texts of the host and of the port. -/
def Address.parts? (text : String) : Option (String × String) :=
  let backwards := text.toList.reverse
  match backwards.dropWhile (· != ':') with
  | [] => none
  | _ :: host =>
    some (String.ofList host.reverse, String.ofList (backwards.takeWhile (· != ':')).reverse)

def Address.parse (text : String) : Except AddressFault Address :=
  match parts? text with
  | none => .error .missingColon
  | some (host, port) =>
    if host.isEmpty then .error .emptyHost
    else
      match Text.readDecimal largestPort port with
      | .error fault => .error (.invalidPort port fault)
      | .ok 0 => .error .zeroPort
      | .ok number => .ok ⟨host, number⟩

end Courier.Network
