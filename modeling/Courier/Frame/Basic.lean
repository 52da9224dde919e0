import Courier.Frame.Error
import Courier.Frame.Kind
import Courier.Span

/-! # Frames

A frame is a message with the name of its provider, an answer id and a kind. A `View` is what a received
message shows: a frame, or nothing at all for a message without bytes.
-/

namespace Courier

/-- A message as its sender means it. -/
structure Frame where
  provider : String
  /-- A time in nanoseconds for segments, a sequence number otherwise. -/
  answerId : UInt64
  kind : Frame.Kind
  payload : Bytes
deriving DecidableEq, Inhabited

namespace Frame

/-- The header: magic (2), version (1), kind (1), provider id (32), answer id (8), payload size (4). -/
def headerSize : Nat := 48

/-- The bytes that a payload of the given size takes on the wire. -/
def encodedSize (payloadSize : Nat) : Nat := headerSize + payloadSize

/-- The same size in machine words, where it starts over after the largest one. -/
def encodedSizeWord (payloadSize : UInt64) : UInt64 := UInt64.ofNat headerSize + payloadSize

theorem encodedSizeWord_toNat (payloadSize : UInt64)
    (h : payloadSize.toNat + headerSize < 18446744073709551616) :
    (encodedSizeWord payloadSize).toNat = encodedSize payloadSize.toNat := by
  simp only [encodedSizeWord, encodedSize, headerSize, UInt64.toNat_add] at *
  simp
  omega

def wireSize (frame : Frame) : Nat := encodedSize frame.payload.length

/-- A received message; without a kind it is the empty message. -/
structure View where
  provider : String
  answerId : UInt64
  kind : Option Kind
  payload : Bytes
deriving DecidableEq

def view (frame : Frame) : View :=
  ⟨frame.provider, frame.answerId, some frame.kind, frame.payload⟩

namespace View

/-- What a message without bytes shows. -/
def empty : View := ⟨"", 0, none, []⟩

def size (view : View) : Nat := view.payload.length

def isEmpty (view : View) : Bool := view.payload.isEmpty

/-- The payload as text. -/
def text (view : View) : Except Error String :=
  (Text.readUtf8 view.payload).mapError .invalidText

/-- The answer id as the time of a segment. -/
def timestamp (view : View) : Span := ⟨view.answerId.toNat⟩

def toFrame? (view : View) : Option Frame :=
  view.kind.map fun kind => ⟨view.provider, view.answerId, kind, view.payload⟩

end View

@[simp]
theorem toFrame?_view (frame : Frame) : frame.view.toFrame? = some frame := rfl

theorem View.toFrame?_eq_some_iff {view : View} {frame : Frame} :
    view.toFrame? = some frame ↔ view = frame.view := by
  constructor
  · rintro h
    obtain ⟨kind, hkind, rfl⟩ := Option.map_eq_some_iff.1 h
    cases view
    simp_all [Frame.view]
  · rintro rfl
    rfl

/-- The text of a view that may be missing. -/
def textOf : Option View → Except Error String
  | some view => view.text
  | none => .ok ""

/-- The payload of a view that may be missing. -/
def payloadOf : Option View → Bytes
  | some view => view.payload
  | none => []

end Frame

end Courier
