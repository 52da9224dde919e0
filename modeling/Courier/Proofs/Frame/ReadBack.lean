import Courier.Proofs.Frame.Conservation

/-! # Reading back a stream of frames

A steady source delivers all its content before it ends and fails only by interruptions. Reading frames
from it gives exactly the frames whose wire forms are its content, however the reads cut it.
-/

namespace Courier.Frame

structure IsWire (limit : Nat) (wire : Bytes) (frame : Frame) : Prop where
  encoded : frame.encode = .ok wire
  within : frame.payload.length ≤ limit

theorem IsWire.carries {limit : Nat} {wire : Bytes} {frame : Frame} (h : IsWire limit wire frame) :
    Carries limit wire frame :=
  carries_of_encode h.encoded h.within

/-- Whether all content comes before the end of the source and no read fails for good. -/
def Steady : List ReadEvent → Prop
  | [] => True
  | .data bytes :: source => (bytes ≠ [] ∨ content source = []) ∧ Steady source
  | .fail error :: source => error.isInterrupted = true ∧ Steady source

theorem steady_data (bytes : Bytes) : Steady [.data bytes] :=
  ⟨.inr rfl, trivial⟩

theorem Steady.readOnce {source : List ReadEvent} (h : Steady source) : Steady (readOnce source).2 := by
  match source with
  | [] => exact h
  | .fail error :: source => exact h.2
  | .data bytes :: source =>
    rw [Frame.readOnce]
    split
    · exact h.2
    · rename_i later hlater
      exact ⟨.inl fun hnil => hlater hnil, h.2⟩

namespace Reader

variable {limit : Nat} {reader : Reader} {wire rest : Bytes} {frame : Frame}

theorem goesOn_readOnce {source : List ReadEvent} (h : Steady source) (hcontent : content source ≠ []) :
    goesOn (readOnce source).1 = true := by
  match source with
  | [] => exact absurd rfl hcontent
  | .fail error :: source => exact h.1
  | .data bytes :: source =>
    have hbytes : bytes ≠ [] := by
      rintro rfl
      rcases h.1 with hne | hnil
      · exact hne rfl
      · exact hcontent hnil
    rw [Frame.readOnce]
    split
    · simpa [goesOn] using hbytes
    · simp [goesOn, readSize, hbytes]

/-- Only the end stops the reading of a steady source. -/
theorem readOnce_of_not_goesOn {source : List ReadEvent} (h : Steady source)
    (hstop : goesOn (readOnce source).1 = false) : (readOnce source).1 = .ok [] := by
  match source with
  | [] => rfl
  | .fail error :: source =>
    have hgoes : goesOn (.error error) = true := h.1
    rw [Frame.readOnce, hgoes] at hstop
    cases hstop
  | .data bytes :: source =>
    cases hread : (Frame.readOnce (.data bytes :: source)).1 with
    | ok read =>
      rw [hread] at hstop
      rw [show read = [] by simpa [goesOn] using hstop]
    | error error =>
      rw [Frame.readOnce] at hread
      split at hread <;> cases hread

/-- All that a reader can still make frames of. -/
def ahead (reader : Reader) : Bytes := reader.buffer ++ content reader.source

theorem ahead_afterRead (reader : Reader) : reader.afterRead.ahead = reader.ahead := by
  rw [ahead, afterRead_buffer, afterRead_source, List.append_assoc, content_readOnce]
  rfl

/-- How a call ends on a steady source: as all that is ahead of the reader says. -/
inductive Foretold (reader : Reader) : Except Error Frame → Reader → Prop
  | frame {frame : Frame} {next : Reader}
      (htake : take? reader.limit reader.ahead = .ok (some (frame, next.ahead)))
      (hlimit : next.limit = reader.limit) (hsteady : Steady next.source) :
      Foretold reader (.ok frame) next
  | fault {error : Error} {next : Reader} (htake : take? reader.limit reader.ahead = .error error) :
      Foretold reader (.error error) next
  | closed {next : Reader} (htake : take? reader.limit reader.ahead = .ok none)
      (hbuffer : next.buffer = reader.ahead) : Foretold reader (.error .connectionClosed) next

theorem foretold_of_turn {answer : Except Error Frame} {next : Reader} (hsteady : Steady reader.source)
    (hturn : reader.turn = (some answer, next)) : Foretold reader answer next := by
  rcases turn_cases hturn with ⟨frame, rest, htake, rfl, rfl⟩ | ⟨error, htake, rfl, rfl⟩ |
    ⟨htake, hstop, rfl, rfl⟩
  · exact .frame (take?_append_of_some htake _) rfl hsteady
  · exact .fault (take?_append_of_error htake _)
  · have hcontent : content reader.source = [] := by
      by_contra hcontent
      rw [goesOn_readOnce hsteady hcontent] at hstop
      cases hstop
    have hahead : reader.ahead = reader.buffer := by
      rw [ahead, hcontent, List.append_nil]
    rw [readOnce_of_not_goesOn hsteady hstop]
    refine .closed (hahead ▸ htake) ?_
    rw [hahead, afterRead_buffer, readOnce_of_not_goesOn hsteady hstop]
    exact List.append_nil _

theorem foretold_readFrame (hsteady : Steady reader.source) :
    Foretold reader reader.readFrame.1 reader.readFrame.2 := by
  revert hsteady
  refine readFrame_induct (motive := fun reader answer next =>
    Steady reader.source → Foretold reader answer next) ?_ ?_ reader
  · exact fun hturn hsteady => foretold_of_turn hsteady hturn
  · intro reader next answer last hturn ih hsteady
    obtain ⟨-, -, rfl⟩ := turn_eq_none_iff.1 hturn
    have hahead := ahead_afterRead reader
    cases ih hsteady.readOnce with
    | frame htake hlimit hlater => exact .frame (hahead ▸ htake) hlimit hlater
    | fault htake => exact .fault (hahead ▸ htake)
    | closed htake hbuffer => exact .closed (hahead ▸ htake) (hbuffer.trans hahead)

theorem readFrame_of_carries (hcarries : Carries limit wire frame) (hlimit : reader.limit = limit)
    (hsteady : Steady reader.source) (hahead : reader.ahead = wire ++ rest) :
    reader.readFrame.1 = .ok frame ∧ reader.readFrame.2.limit = limit ∧
      Steady reader.readFrame.2.source ∧ reader.readFrame.2.ahead = rest := by
  have hfirst := hcarries.take?_append rest
  rw [← hahead, ← hlimit] at hfirst
  have hforetold := foretold_readFrame hsteady
  generalize reader.readFrame.1 = answer at hforetold ⊢
  cases hforetold with
  | frame htake hsame hlater =>
    rw [hfirst] at htake
    cases htake
    exact ⟨rfl, hsame.trans hlimit, hlater, rfl⟩
  | fault htake | closed htake =>
    rw [hfirst] at htake
    cases htake

theorem readFrame_of_ended (hsteady : Steady reader.source) (hahead : reader.ahead = []) :
    reader.readFrame.1 = .error .connectionClosed ∧ reader.readFrame.2.buffer = [] := by
  have hneed : take? reader.limit reader.ahead = .ok none := by
    rw [hahead]
    exact take?_of_short (by decide)
  have hforetold := foretold_readFrame hsteady
  generalize reader.readFrame.1 = answer at hforetold ⊢
  cases hforetold with
  | closed _ hbuffer => exact ⟨rfl, hbuffer.trans hahead⟩
  | frame htake | fault htake =>
    rw [hneed] at htake
    cases htake

theorem nextFrame_of_carries (hcarries : Carries limit wire frame) (hlimit : reader.limit = limit)
    (hsteady : Steady reader.source) (hahead : reader.ahead = wire ++ rest) :
    reader.nextFrame.1 = some (.ok frame) ∧ reader.nextFrame.2.limit = limit ∧
      Steady reader.nextFrame.2.source ∧ reader.nextFrame.2.ahead = rest := by
  obtain ⟨hanswer, hnext⟩ := readFrame_of_carries hcarries hlimit hsteady hahead
  rw [nextFrame_eq, hanswer, if_neg (fun h => nomatch h.1)]
  exact ⟨rfl, hnext⟩

/-- Going through a steady source of the wire forms of some frames gives these frames and then ends. -/
theorem frames_of_carried {wires : List Bytes} {frames : List Frame}
    (h : List.Forall₂ (Carries limit) wires frames) {count : Nat} (hcount : frames.length < count)
    (hlimit : reader.limit = limit) (hsteady : Steady reader.source)
    (hahead : reader.ahead = wires.flatten) :
    (reader.frames count).1 = frames.map .ok ∧ (reader.frames count).2.1 = true := by
  induction h generalizing count reader with
  | nil =>
    obtain ⟨count, rfl⟩ : ∃ later, count = later + 1 := ⟨count - 1, by simp at hcount; omega⟩
    have hnone : reader.nextFrame.1 = none := nextFrame_eq_none_iff.2 (readFrame_of_ended hsteady hahead)
    rw [Reader.frames]
    split
    · exact ⟨rfl, rfl⟩
    · rename_i item next hitem
      rw [hitem] at hnone
      cases hnone
  | @cons wire frame wires frames hcarries _ ih =>
    obtain ⟨count, rfl⟩ : ∃ later, count = later + 1 := ⟨count - 1, by simp at hcount; omega⟩
    obtain ⟨hanswer, hnext, hlater, hrest⟩ := nextFrame_of_carries hcarries hlimit hsteady hahead
    rw [Reader.frames]
    split
    · rename_i next hnone
      rw [hnone] at hanswer
      cases hanswer
    · rename_i item next hitem
      rw [hitem] at hanswer hnext hlater hrest
      obtain rfl : item = .ok frame := Option.some.inj hanswer
      obtain ⟨hframes, hended⟩ := ih (Nat.lt_of_succ_lt_succ hcount) hnext hlater hrest
      exact ⟨congrArg (.ok frame :: ·) hframes, hended⟩

end Reader

end Courier.Frame
