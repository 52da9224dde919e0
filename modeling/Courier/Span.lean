/-! # Spans of time

A span is counted in nanoseconds. `Span.text` writes it in the largest unit that it fills, with as many
decimals as it needs.
-/

namespace Courier

/-- A span of time, or a time since a fixed start. -/
structure Span where
  nanos : Nat
deriving DecidableEq, Repr

namespace Span

def ofMillis (millis : Nat) : Span := ⟨millis * 1000000⟩

def ofSeconds (seconds : Nat) : Span := ⟨seconds * 1000000000⟩

/-- The whole seconds of a span. -/
def seconds (span : Span) : Nat := span.nanos / 1000000000

/-- The nanoseconds after the whole seconds. -/
def subsecond (span : Span) : Nat := span.nanos % 1000000000

theorem seconds_subsecond (span : Span) :
    span.seconds * 1000000000 + span.subsecond = span.nanos := by
  simp only [seconds, subsecond]
  omega

/-- The decimals of `part` out of `unit`, a power of ten, without the zeros at the end. -/
def decimals (part unit : Nat) : List Char :=
  let padded := (Nat.toDigits 10 (unit + part)).drop 1
  (padded.reverse.dropWhile (· == '0')).reverse

/-- A number of units with its fraction: `1.5ms` for 1500000 out of 1000000. -/
def inUnit (nanos unit : Nat) (name : String) : String :=
  match decimals (nanos % unit) unit with
  | [] => toString (nanos / unit) ++ name
  | digits => toString (nanos / unit) ++ "." ++ String.ofList digits ++ name

def text (span : Span) : String :=
  if 1000000000 ≤ span.nanos then inUnit span.nanos 1000000000 "s"
  else if 1000000 ≤ span.nanos then inUnit span.nanos 1000000 "ms"
  else if 1000 ≤ span.nanos then inUnit span.nanos 1000 "µs"
  else inUnit span.nanos 1 "ns"

end Span

end Courier
