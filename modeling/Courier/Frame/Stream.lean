import Courier.Frame.Wire

/-! # Frames in a stream of bytes

A stream is received piece by piece into a buffer. `take?` takes one frame off the front of the buffer
once it is complete, and `drain` takes frames until more bytes are needed or the stream is broken.
-/

namespace Courier.Frame

/-- Takes a complete frame off the front of a buffer; `none` asks for more bytes. A payload larger than
`limit` is refused as soon as its header is there. -/
def take? (limit : Nat) (buffer : Bytes) : Except Error (Option (Frame × Bytes)) :=
  if buffer.shorterThan headerSize then .ok none
  else
    match parseHeader buffer with
    | .error error => .error error
    | .ok header =>
      if header.payloadSize > limit then .error (.payloadTooLarge header.payloadSize limit)
      else if buffer.shorterThan (encodedSize header.payloadSize) then .ok none
      else
        .ok (some (header.frame (buffer.slice headerSize header.payloadSize),
          buffer.drop (encodedSize header.payloadSize)))

theorem length_of_take? {limit : Nat} {buffer rest : Bytes} {frame : Frame}
    (h : take? limit buffer = .ok (some (frame, rest))) :
    frame.wireSize + rest.length = buffer.length := by
  unfold take? at h
  split at h
  · cases h
  · split at h
    · cases h
    · rename_i header _
      split at h
      · cases h
      · split at h
        · cases h
        · rename_i hlong
          have hsize := (Bytes.shorterThan_eq_false_iff _ _).1 (Bool.eq_false_iff.2 hlong)
          simp only [Except.ok.injEq, Option.some.injEq, Prod.mk.injEq] at h
          obtain ⟨rfl, rfl⟩ := h
          simp only [wireSize, encodedSize, headerSize, Header.frame, Bytes.slice,
            List.length_take, List.length_drop] at hsize ⊢
          omega

/-- The outcome of draining a buffer: the frames found, the fault that stopped it, and what is left. -/
structure Drained where
  frames : List Frame
  failure : Option Error
  rest : Bytes
deriving DecidableEq

/-- Takes frames off a buffer until it needs more bytes or shows a fault. -/
def drain (limit : Nat) (buffer : Bytes) : Drained :=
  match h : take? limit buffer with
  | .error error => ⟨[], some error, buffer⟩
  | .ok none => ⟨[], none, buffer⟩
  | .ok (some (frame, rest)) =>
    have : rest.length < buffer.length := by
      have := length_of_take? h
      simp only [wireSize, encodedSize, headerSize] at this
      omega
    let tail := drain limit rest
    { tail with frames := frame :: tail.frames }
termination_by buffer.length

/-- Adds a piece to a drained buffer. After a fault nothing more is taken. -/
def Drained.push (limit : Nat) (state : Drained) (chunk : Bytes) : Drained :=
  match state.failure with
  | some _ => { state with rest := state.rest ++ chunk }
  | none =>
    let next := drain limit (state.rest ++ chunk)
    { next with frames := state.frames ++ next.frames }

/-- The frames in a stream that arrives in pieces. -/
def drainChunks (limit : Nat) (chunks : List Bytes) : Drained :=
  chunks.foldl (Drained.push limit) ⟨[], none, []⟩

end Courier.Frame
