import Courier.Proofs.Frame.FirstFrame
import Mathlib.Data.List.Forall2

/-! # Streams in pieces

What is drained from a stream is a function of its bytes: `drain_append` carries a drained buffer across
one more piece, and by induction the places where a stream is cut do not matter.
-/

namespace Courier.Frame

variable {limit : Nat} {buffer rest : Bytes} {frame : Frame}

def Drained.after (frames : List Frame) (drained : Drained) : Drained :=
  { drained with frames := frames ++ drained.frames }

theorem Drained.after_after (earlier later : List Frame) (drained : Drained) :
    (drained.after later).after earlier = drained.after (earlier ++ later) := by
  simp only [after, List.append_assoc]

theorem drain_of_error {error : Error} (h : take? limit buffer = .error error) :
    drain limit buffer = ⟨[], some error, buffer⟩ := by
  rw [drain]
  split <;> simp_all

theorem drain_of_none (h : take? limit buffer = .ok none) :
    drain limit buffer = ⟨[], none, buffer⟩ := by
  rw [drain]
  split <;> simp_all

theorem drain_of_some (h : take? limit buffer = .ok (some (frame, rest))) :
    drain limit buffer = (drain limit rest).after [frame] := by
  rw [drain]
  split <;> simp_all [Drained.after]

theorem drain_nil (limit : Nat) : drain limit [] = ⟨[], none, []⟩ :=
  drain_of_none (take?_of_short (by decide))

theorem Drained.push_after (frames : List Frame) (drained : Drained) (chunk : Bytes) :
    (drained.after frames).push limit chunk = (drained.push limit chunk).after frames := by
  cases hfailure : drained.failure with
  | some error => simp only [push, after, hfailure]
  | none => simp only [push, after, hfailure, List.append_assoc]

theorem drain_append (limit : Nat) (buffer chunk : Bytes) :
    drain limit (buffer ++ chunk) = (drain limit buffer).push limit chunk := by
  induction buffer using drain.induct limit with
  | case1 buffer error h =>
    rw [drain_of_error h, drain_of_error (take?_append_of_error h chunk)]
    rfl
  | case2 buffer h =>
    rw [drain_of_none h]
    rfl
  | case3 buffer frame rest h _ ih =>
    rw [drain_of_some h, drain_of_some (take?_append_of_some h chunk), ih, Drained.push_after]

theorem foldl_push_drain (limit : Nat) (buffer : Bytes) (chunks : List Bytes) :
    chunks.foldl (Drained.push limit) (drain limit buffer) = drain limit (buffer ++ chunks.flatten) := by
  induction chunks generalizing buffer with
  | nil => simp
  | cons chunk chunks ih =>
    rw [List.foldl_cons, ← drain_append, ih, List.flatten_cons, List.append_assoc]

theorem drainChunks_eq_drain (limit : Nat) (chunks : List Bytes) :
    drainChunks limit chunks = drain limit chunks.flatten := by
  rw [drainChunks, ← drain_nil limit, foldl_push_drain, List.nil_append]

theorem drain_carried {wires : List Bytes} {frames : List Frame}
    (h : List.Forall₂ (Carries limit) wires frames) (rest : Bytes) :
    drain limit (wires.flatten ++ rest) = (drain limit rest).after frames := by
  induction h with
  | nil => rfl
  | cons hcarries _ ih =>
    rw [List.flatten_cons, List.append_assoc, drain_of_some (hcarries.take?_append _), ih,
      Drained.after_after]
    rfl

/-- However a stream is cut into pieces, with empty ones among them, pushing the pieces one after another
finds the same frames, stops at the same fault and leaves the same bytes as pushing the stream at once. Of
a stream that is the wire forms of some frames, these frames are found and nothing is left. -/
theorem drainChunks_of_any_cuts (limit : Nat) (chunks : List Bytes) :
    drainChunks limit chunks = drainChunks limit [chunks.flatten] ∧
      ∀ (wires : List Bytes) (frames : List Frame),
        List.Forall₂ (fun (wire : Bytes) (frame : Frame) =>
          frame.encode = .ok wire ∧ frame.payload.length ≤ limit) wires frames →
        chunks.flatten = wires.flatten → drainChunks limit chunks = ⟨frames, none, []⟩ := by
  constructor
  · rw [drainChunks_eq_drain, drainChunks_eq_drain, List.flatten_singleton]
  · intro wires frames hwires hstream
    have hcarried : List.Forall₂ (Carries limit) wires frames :=
      hwires.imp fun _ _ hwire => carries_of_encode hwire.1 hwire.2
    have hdrained := drain_carried hcarried []
    rw [List.append_nil, drain_nil] at hdrained
    rw [drainChunks_eq_drain, hstream, hdrained, Drained.after, List.append_nil]

/-- Two frames cut inside the magic, inside the payload of the first and inside the second id. -/
theorem drainChunks_of_any_cuts_in_two_frames :
    let first : Bytes := [0x41, 0x43, 1, 0, 0x61] ++ List.replicate 39 0 ++ [2, 0, 0, 0, 7, 8]
    let second : Bytes := [0x41, 0x43, 1, 3, 0xC3, 0xA9] ++ List.replicate 42 0
    let frames : List Frame := [⟨"a", 0, .log, [7, 8]⟩, ⟨"é", 0, .command, []⟩]
    let chunks := [[0x41], [], (first.drop 1).take 48, [8, 0x41, 0x43, 1, 3, 0xC3], second.drop 5]
    List.Forall₂ (fun (wire : Bytes) (frame : Frame) =>
        frame.encode = .ok wire ∧ frame.payload.length ≤ 2) [first, second] frames ∧
      chunks.flatten = [first, second].flatten ∧ drainChunks 2 chunks = ⟨frames, none, []⟩ := by
  intro first second frames chunks
  have hfirst : (⟨"a", 0, .log, [7, 8]⟩ : Frame).encode = .ok first := rfl
  have hsecond : (⟨"é", 0, .command, []⟩ : Frame).encode = .ok second := rfl
  have hwires : List.Forall₂ (fun (wire : Bytes) (frame : Frame) =>
      frame.encode = .ok wire ∧ frame.payload.length ≤ 2) [first, second] frames :=
    .cons ⟨hfirst, by decide⟩ (.cons ⟨hsecond, by decide⟩ .nil)
  have hstream : chunks.flatten = [first, second].flatten := by decide
  exact ⟨hwires, hstream, (drainChunks_of_any_cuts 2 chunks).2 _ _ hwires hstream⟩

end Courier.Frame
