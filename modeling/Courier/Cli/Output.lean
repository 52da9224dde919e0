import Courier.Frame.Basic
import Courier.Reception.Tally
import Courier.Text.Boxed

/-! # Output

How received frames, sent frames and tallies are printed, in each of the four formats. Everything but a
raw payload ends with a line feed.
-/

namespace Courier.Cli

inductive Format where
  | json
  | table
  | pretty
  | raw
deriving DecidableEq, Repr

namespace Format

def all : List Format := [json, table, pretty, raw]

def word : Format → String
  | json => "json"
  | table => "table"
  | pretty => "pretty"
  | raw => "raw"

/-- The name of the alternative itself. -/
def label : Format → String
  | json => "Json"
  | table => "Table"
  | pretty => "Pretty"
  | raw => "Raw"

def ofWord? (word : String) : Option Format :=
  all.find? fun format => format.word == word

end Format

/-- What a command has printed. -/
structure Output where
  stdout : Bytes := []
  stderr : Bytes := []
deriving DecidableEq

/-- A text as a line. -/
def line (text : String) : Bytes :=
  Text.utf8 (text ++ "\n")

/-- What is shown of a payload: the text of a textual kind, else the size alone. -/
def preview (kind : Frame.Kind) (payload : Bytes) : String :=
  match Text.ofUtf8? payload with
  | some text => if kind.isText then text else s!"<binary {payload.length} bytes>"
  | none => s!"<binary {payload.length} bytes>"

/-- The JSON object of a frame received from a queue; `now` counts the seconds of the calendar. -/
def frameFields (now : Nat) (queue : String) (frame : Frame) : List (String × Text.Json.Scalar) :=
  [("kind", .text frame.kind.name), ("provider_id", .text frame.provider),
    ("answer_id", .number frame.answerId.toNat), ("payload_size", .number frame.payload.length),
    ("payload", .text (preview frame.kind frame.payload)), ("queue", .text queue),
    ("timestamp", .text (toString now))]

def frameTable (frame : Frame) : String :=
  Text.Boxed.render ["KIND", "PEER", "ANSWER ID", "SIZE", "PAYLOAD"]
    [frame.kind.name, frame.provider, toString frame.answerId.toNat, toString frame.payload.length,
      preview frame.kind frame.payload]

def framePretty (frame : Frame) : String :=
  "kind=" ++ frame.kind.name ++ " peer=" ++ frame.provider
    ++ " answer_id=" ++ toString frame.answerId.toNat
    ++ " size=" ++ toString frame.payload.length
    ++ " payload=" ++ preview frame.kind frame.payload

/-- Prints a frame received from a queue. -/
def printFrame (format : Format) (now : Nat) (queue : String) (frame : Frame) : Bytes :=
  match format with
  | .json => line (Text.Json.renderObject (frameFields now queue frame))
  | .table => line (frameTable frame)
  | .pretty => line (framePretty frame)
  | .raw => frame.payload

/-- What is told of a frame that was sent. -/
structure Report where
  port : String
  transport : String
  kind : String
  provider : String
  answerId : UInt64
  payloadSize : Nat
  frameSize : Nat
deriving DecidableEq

namespace Report

def fields (report : Report) : List (String × Text.Json.Scalar) :=
  [("port", .text report.port), ("transport", .text report.transport), ("kind", .text report.kind),
    ("provider_id", .text report.provider), ("answer_id", .number report.answerId.toNat),
    ("payload_size", .number report.payloadSize), ("frame_size", .number report.frameSize)]

def table (report : Report) : String :=
  Text.Boxed.render ["PORT", "TRANSPORT", "KIND", "PEER", "ANSWER ID", "BYTES"]
    [report.port, report.transport, report.kind, report.provider,
      toString report.answerId.toNat, toString report.frameSize]

def pretty (report : Report) : String :=
  "sent " ++ report.kind ++ " frame (" ++ toString report.frameSize ++ " bytes) to " ++ report.port
    ++ " via " ++ report.transport

end Report

/-- Prints what was sent. -/
def printReport (format : Format) (report : Report) : Bytes :=
  match format with
  | .json => line (Text.Json.renderObject report.fields)
  | .table => line report.table
  | .pretty => line report.pretty
  | .raw => []

/-- Prints the tally of a queue. -/
def printTally (format : Format) (queue : String) (tally : Reception.Tally) : Bytes :=
  match format with
  | .json => line (Text.Json.renderObject (("queue", .text queue) :: tally.fields))
  | .table | .pretty =>
    line ("queue=" ++ queue ++ " received=" ++ toString tally.received
      ++ " accepted=" ++ toString tally.accepted ++ " rejected=" ++ toString tally.rejected
      ++ " failed=" ++ toString tally.failed)
  | .raw => []

end Courier.Cli
