/-! # Decimal numbers

`readDecimal` reads a number as people write it: an optional plus sign and digits, within a largest
value. The digits are taken from left to right, and the first thing wrong is the fault.
-/

namespace Courier.Text

/-- Why a text is no number. -/
inductive DecimalFault where
  | empty
  | invalidDigit
  | tooLarge
deriving DecidableEq, Repr

namespace DecimalFault

def message : DecimalFault → String
  | empty => "cannot parse integer from empty string"
  | invalidDigit => "invalid digit found in string"
  | tooLarge => "number too large to fit in target type"

end DecimalFault

/-- The value of an ASCII digit. -/
def digit? (c : Char) : Option Nat :=
  if '0' ≤ c ∧ c ≤ '9' then some (c.toNat - '0'.toNat) else none

/-- Reads on with `value` for the digits already read. -/
def readDigits (max : Nat) : Nat → List Char → Except DecimalFault Nat
  | value, [] => .ok value
  | value, c :: rest =>
    match digit? c with
    | none => .error .invalidDigit
    | some digit =>
      if value * 10 + digit > max then .error .tooLarge else readDigits max (value * 10 + digit) rest

/-- Reads a number of at most `max`. -/
def readDecimalChars (max : Nat) : List Char → Except DecimalFault Nat
  | [] => .error .empty
  | ['+'] => .error .invalidDigit
  | '+' :: digits => readDigits max 0 digits
  | digits => readDigits max 0 digits

def readDecimal (max : Nat) (text : String) : Except DecimalFault Nat :=
  readDecimalChars max text.toList

end Courier.Text
