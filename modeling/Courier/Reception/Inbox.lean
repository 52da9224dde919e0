import Courier.Frame.Basic
import Courier.Text.Json
import Courier.Text.Record

/-! # The inbox

Where received messages are kept: every log line and configuration in order of arrival, the number of
segments and the last of them.
-/

namespace Courier.Reception

/-- A block of measurements with the time it was taken at. -/
structure Segment where
  peer : String
  answerId : UInt64
  timestamp : Span
  data : Bytes
deriving DecidableEq

namespace Segment

def ofView (view : Frame.View) : Segment :=
  ⟨view.provider, view.answerId, view.timestamp, view.payload⟩

def shown (segment : Segment) : String :=
  Text.record "Segment"
    [("peer", Text.quote segment.peer), ("answer_id", toString segment.answerId.toNat),
      ("timestamp", segment.timestamp.text), ("data", Text.quoteBytes segment.data)]

def json (segment : Segment) : String :=
  Text.Json.renderObject
    [("peer", .text segment.peer), ("answer_id", .number segment.answerId.toNat),
      ("timestamp", .number segment.timestamp.nanos),
      ("data", .numbers (segment.data.map UInt8.toNat))]

end Segment

structure Inbox where
  lastSegment : Option Segment := none
  segments : Nat := 0
  logs : List String := []
  yamls : List String := []
deriving DecidableEq

namespace Inbox

def addLog (inbox : Inbox) (text : String) : Inbox :=
  { inbox with logs := inbox.logs ++ [text] }

def addYaml (inbox : Inbox) (text : String) : Inbox :=
  { inbox with yamls := inbox.yamls ++ [text] }

def addSegment (inbox : Inbox) (segment : Segment) : Inbox :=
  { inbox with lastSegment := some segment, segments := inbox.segments + 1 }

/-- Forgets everything that was received so far. -/
def reset (_inbox : Inbox) : Inbox := {}

end Inbox

end Courier.Reception
