import Courier.Span
import Courier.Text.Blank
import Courier.Text.Decimal

/-! # Timeouts

A timeout is written as a number of seconds, with or without an `s` after it, or as a number of
milliseconds with `ms` after it. Blanks around it do not matter, and zero is no timeout.
-/

namespace Courier.Cli

inductive TimeoutFault where
  | empty
  /-- The text without the blanks around it is no number with a unit. -/
  | invalid (trimmed : String)
  | zero
deriving DecidableEq

def TimeoutFault.message : TimeoutFault → String
  | .empty => "duration must not be empty"
  | .invalid trimmed => "invalid duration value: " ++ trimmed
  | .zero => "duration must be greater than zero"

/-- The units of time that can stand after a number. -/
inductive TimeUnit where
  | seconds
  | millis
deriving DecidableEq, Repr

namespace TimeUnit

/-- The span of a number of units. -/
def span : TimeUnit → Nat → Span
  | seconds, count => .ofSeconds count
  | millis, count => .ofMillis count

/-- Separates the number from the unit; seconds are meant where no unit stands. -/
def split (chars : List Char) : List Char × TimeUnit :=
  match chars.reverse with
  | 's' :: 'm' :: number => (number.reverse, millis)
  | 's' :: number => (number.reverse, seconds)
  | _ => (chars, seconds)

end TimeUnit

/-- The numbers that fit in 64 bits. -/
def largestCount : Nat := 18446744073709551615

def parseTimeout (text : String) : Except TimeoutFault Span :=
  let chars := Text.trimChars text.toList
  if chars.isEmpty then .error .empty
  else
    let (number, unit) := TimeUnit.split chars
    match Text.readDecimalChars largestCount number with
    | .error _ => .error (.invalid (String.ofList chars))
    | .ok 0 => .error .zero
    | .ok count => .ok (unit.span count)

end Courier.Cli
