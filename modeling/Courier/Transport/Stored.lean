import Courier.Transport.Basic

/-! # Stored ports

A port is stored as its text, in any format that keeps texts. What is stored goes through the same checks as
any other text when it is loaded.
-/

namespace Courier

/-- A format that keeps texts, perhaps among other values. -/
structure Text.Format (Value : Type) where
  write : String → Value
  read? : Value → Option String
  read?_write : ∀ text, read? (write text) = some text

namespace Transport

/-- Why a stored value is no port. -/
inductive LoadFault where
  | notText
  | refused (error : Error)
deriving DecidableEq

variable {Value : Type}

def store (format : Text.Format Value) (port : Port) : Value :=
  format.write port.text

def load (format : Text.Format Value) (value : Value) : Except LoadFault Port :=
  match format.read? value with
  | none => .error .notText
  | some text => (readPort text).mapError .refused

theorem load_write (format : Text.Format Value) (text : String) :
    load format (format.write text) = (readPort text).mapError .refused := by
  rw [load, format.read?_write]

end Transport

end Courier
