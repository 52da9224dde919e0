/-! # Kinds of frames

A frame carries a log line, a block of measurements, a configuration or a command. Each kind has a tag
on the wire: `ofTag?_eq_some_iff` says that tags and kinds determine each other.
-/

namespace Courier.Frame

/-- What a frame carries. -/
inductive Kind where
  | log
  /-- Measurements; the answer id is the time they were taken at. -/
  | segment
  | yaml
  /-- A command for the command router. -/
  | command
deriving DecidableEq, Repr, Inhabited

namespace Kind

/-- Every kind, in the order of their tags. -/
def all : List Kind := [log, segment, yaml, command]

def tag : Kind → UInt8
  | log => 0
  | segment => 1
  | yaml => 2
  | command => 3

def ofTag? (tag : UInt8) : Option Kind :=
  all.find? fun kind => kind.tag == tag

theorem ofTag?_eq_some_iff {tag : UInt8} {kind : Kind} : ofTag? tag = some kind ↔ tag = kind.tag := by
  constructor
  · intro h
    have := List.find?_some h
    simp only [beq_iff_eq] at this
    exact this.symm
  · rintro rfl
    cases kind <;> decide

def name : Kind → String
  | log => "LOG"
  | segment => "SEGMENT"
  | yaml => "YAML"
  | command => "COMMAND"

theorem name_injective : Function.Injective name := by
  intro left right h
  cases left <;> cases right <;> first | rfl | exact absurd h (by decide)

/-- The name of the alternative itself. -/
def label : Kind → String
  | log => "Log"
  | segment => "Segment"
  | yaml => "Yaml"
  | command => "Command"

/-- The word for the kind on the command line. -/
def word : Kind → String
  | log => "log"
  | segment => "segment"
  | yaml => "yaml"
  | command => "command"

def ofWord? (word : String) : Option Kind :=
  all.find? fun kind => kind.word == word

/-- Whether payloads of this kind are texts by convention. -/
def isText (kind : Kind) : Bool :=
  kind != segment

theorem isText_eq_true_iff {kind : Kind} : kind.isText = true ↔ kind ≠ segment := by
  cases kind <;> decide

end Kind

end Courier.Frame
