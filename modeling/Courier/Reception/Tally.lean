import Courier.Text.Json
import Courier.Text.Record

/-! # The tally

How many messages were received, and what became of them.
-/

namespace Courier.Reception

structure Tally where
  received : Nat := 0
  accepted : Nat := 0
  rejected : Nat := 0
  /-- Messages that were too large, or whose handler panicked. -/
  failed : Nat := 0
deriving DecidableEq

namespace Tally

/-- The messages of which it is known what became of them. -/
def settled (tally : Tally) : Nat := tally.accepted + tally.rejected + tally.failed

def shown (tally : Tally) : String :=
  Text.record "StatsSnapshot"
    [("received", toString tally.received), ("accepted", toString tally.accepted),
      ("rejected", toString tally.rejected), ("failed", toString tally.failed)]

def fields (tally : Tally) : List (String × Text.Json.Scalar) :=
  [("received", .number tally.received), ("accepted", .number tally.accepted),
    ("rejected", .number tally.rejected), ("failed", .number tally.failed)]

def json (tally : Tally) : String :=
  Text.Json.renderObject tally.fields

end Tally

end Courier.Reception
