import Courier.Frame.Stream

/-! # Reading frames

A `Reader` keeps what it has read from a source between calls, so a frame may arrive in any number of
reads, and a failed read loses nothing. The source is a list of what its reads will do.
-/

namespace Courier.Frame

/-- What one stretch of a source does: deliver bytes, or fail once. No bytes means the end. -/
inductive ReadEvent where
  | data (bytes : Bytes)
  | fail (error : IoError)
deriving DecidableEq

/-- The most that one read delivers. -/
def readSize : Nat := 8192

/-- One read: its outcome and the source after it. Bytes beyond `readSize` stay first in line, and a
source that has nothing left to do is at its end. -/
def readOnce : List ReadEvent → Except IoError Bytes × List ReadEvent
  | [] => (.ok [], [])
  | .fail error :: source => (.error error, source)
  | .data bytes :: source =>
    match bytes.drop readSize with
    | [] => (.ok bytes, source)
    | later => (.ok (bytes.take readSize), .data later :: source)

/-- How many events and bytes a source still holds. -/
def sourceWeight : List ReadEvent → Nat
  | [] => 0
  | .data bytes :: source => bytes.length + 1 + sourceWeight source
  | .fail _ :: source => 1 + sourceWeight source

theorem sourceWeight_readOnce {source : List ReadEvent} (h : source ≠ []) :
    sourceWeight (readOnce source).2 < sourceWeight source := by
  match source with
  | .fail _ :: source =>
    simp only [readOnce, sourceWeight]
    omega
  | .data bytes :: source =>
    simp only [readOnce]
    split
    · simp only [sourceWeight]
      omega
    · rename_i later hne
      have hpos : (bytes.drop readSize).length ≠ 0 := fun hzero =>
        hne (List.length_eq_zero_iff.1 hzero)
      simp only [sourceWeight, List.length_drop, readSize] at hpos ⊢
      omega

/-- A source of frames with the bytes read but not yet used. -/
structure Reader where
  limit : Nat
  source : List ReadEvent
  buffer : Bytes := []
  /-- The reads made so far. -/
  reads : Nat := 0

namespace Reader

/-- The next frame. Interrupted reads are made again; any other failure is the answer. -/
def readFrame (reader : Reader) : Except Error Frame × Reader :=
  match take? reader.limit reader.buffer with
  | .error error => (.error error, reader)
  | .ok (some (frame, rest)) => (.ok frame, { reader with buffer := rest })
  | .ok none =>
    match hsource : reader.source with
    | [] => (.error .connectionClosed, { reader with reads := reader.reads + 1 })
    | event :: source =>
      have : sourceWeight (readOnce (event :: source)).2 < sourceWeight reader.source := by
        rw [hsource]
        exact sourceWeight_readOnce (by simp)
      let next := { reader with source := (readOnce (event :: source)).2, reads := reader.reads + 1 }
      match (readOnce (event :: source)).1 with
      | .error error => if error.isInterrupted then next.readFrame else (.error (.io error), next)
      | .ok [] => (.error .connectionClosed, next)
      | .ok bytes => { next with buffer := reader.buffer ++ bytes }.readFrame
termination_by sourceWeight reader.source

/-- One step of going through the frames: `none` at the end of a stream that stops between frames. -/
def nextFrame (reader : Reader) : Option (Except Error Frame) × Reader :=
  match reader.readFrame with
  | (.error .connectionClosed, next) =>
    if next.buffer.isEmpty then (none, next) else (some (.error .connectionClosed), next)
  | (outcome, next) => (some outcome, next)

/-- Goes through at most `count` frames; the flag says whether the stream ended before. -/
def frames : Nat → Reader → List (Except Error Frame) × Bool × Reader
  | 0, reader => ([], false, reader)
  | count + 1, reader =>
    match reader.nextFrame with
    | (none, next) => ([], true, next)
    | (some item, next) =>
      let (items, ended, last) := frames count next
      (item :: items, ended, last)

end Reader

end Courier.Frame
