import Courier.Frame.Codec
import Courier.Proofs.Frame.ReadBack

/-! # Readers and codecs agree on a stream

A reader pulls the bytes of a stream and a codec has them pushed to it. Both find the frames that draining
all the bytes at once finds. They differ in the fault that they report for a stream that ends inside a
frame, and in nothing else: `Drained.failureAtEnd` takes that fault as a parameter.
-/

namespace Courier.Frame

variable {limit : Nat}

/-- The fault of a stream that ends with what was drained: bytes that are left are reported as `cut`. -/
def Drained.failureAtEnd (cut : Error) (drained : Drained) : Option Error :=
  drained.failure.or (if drained.rest = [] then none else some cut)

@[simp]
theorem Drained.failureAtEnd_after (cut : Error) (frames : List Frame) (drained : Drained) :
    (drained.after frames).failureAtEnd cut = drained.failureAtEnd cut := rfl

/-- What draining leaves needs more bytes, unless it is at fault. -/
theorem take?_rest_of_drain {buffer : Bytes} (h : (drain limit buffer).failure = none) :
    take? limit (drain limit buffer).rest = .ok none := by
  induction buffer using drain.induct limit with
  | case1 buffer error htake =>
    rw [drain_of_error htake] at h
    cases h
  | case2 buffer htake =>
    rw [drain_of_none htake]
    exact htake
  | case3 buffer frame rest htake _ ih =>
    rw [drain_of_some htake] at h ⊢
    exact ih h

/-- The faults of a header: it is malformed, or declares a payload over the limit. -/
def Error.IsRefusal (limit : Nat) (error : Error) : Prop :=
  error.isDecoding = true ∨ ∃ size, error = .payloadTooLarge size limit

theorem isRefusal_of_drain {buffer : Bytes} {error : Error}
    (h : (drain limit buffer).failure = some error) : error.IsRefusal limit := by
  induction buffer using drain.induct limit with
  | case1 buffer fault htake =>
    rw [drain_of_error htake] at h
    obtain rfl := Option.some.inj h
    exact isDecoding_or_tooLarge_of_take? htake
  | case2 buffer htake =>
    rw [drain_of_none htake] at h
    cases h
  | case3 buffer frame rest htake _ ih =>
    rw [drain_of_some htake] at h
    exact ih h

namespace Reader

variable {reader next : Reader} {frame : Frame}

def weight (reader : Reader) : Nat := sourceWeight reader.source + reader.buffer.length

theorem weight_afterRead_le (reader : Reader) : reader.afterRead.weight ≤ reader.weight := by
  rw [weight, weight, afterRead_buffer, afterRead_source, List.length_append]
  match reader.source with
  | [] => exact Nat.le_refl _
  | .fail error :: source =>
    simp only [readOnce, sourceWeight, delivered, List.length_nil]
    omega
  | .data bytes :: source =>
    rw [readOnce]
    split
    · simp only [sourceWeight, delivered, List.append_nil]
      omega
    · simp only [sourceWeight, delivered, List.append_nil, List.length_take, List.length_drop]
      omega

theorem weight_readFrame_lt (h : reader.readFrame.1 = .ok frame) :
    reader.readFrame.2.weight < reader.weight := by
  revert h
  refine readFrame_induct (motive := fun reader answer next =>
    answer = .ok frame → next.weight < reader.weight) ?_ ?_ reader
  · rintro reader answer next hturn rfl
    rcases turn_cases hturn with ⟨found, rest, htake, -, rfl⟩ | ⟨error, -, hanswer, -⟩ |
      ⟨-, -, hanswer, -⟩
    · have hlength := length_of_take? htake
      simp only [weight, wireSize, encodedSize, headerSize] at hlength ⊢
      omega
    · cases hanswer
    · cases hanswer
  · intro reader next answer last hturn ih hanswer
    obtain ⟨-, -, rfl⟩ := turn_eq_none_iff.1 hturn
    exact Nat.lt_of_lt_of_le (ih hanswer) (weight_afterRead_le reader)

theorem weight_nextFrame_lt (h : reader.nextFrame = (some (.ok frame), next)) :
    next.weight < reader.weight := by
  rw [nextFrame_eq] at h
  obtain ⟨hanswer, rfl⟩ := Prod.mk.inj h
  split at hanswer
  · cases hanswer
  · exact weight_readFrame_lt (Option.some.inj hanswer)

/-- Goes through the frames until the stream ends or a call fails; what is left is in the buffer. -/
def pull (reader : Reader) : Drained :=
  match h : reader.nextFrame with
  | (none, next) => ⟨[], none, next.buffer⟩
  | (some (.error error), next) => ⟨[], some error, next.buffer⟩
  | (some (.ok frame), next) =>
    have : next.weight < reader.weight := weight_nextFrame_lt h
    next.pull.after [frame]
termination_by reader.weight

theorem pull_of_none (h : reader.nextFrame = (none, next)) : reader.pull = ⟨[], none, next.buffer⟩ := by
  rw [pull]
  split <;> simp_all

theorem pull_of_error {error : Error} (h : reader.nextFrame = (some (.error error), next)) :
    reader.pull = ⟨[], some error, next.buffer⟩ := by
  rw [pull]
  split <;> simp_all

theorem pull_of_frame (h : reader.nextFrame = (some (.ok frame), next)) :
    reader.pull = next.pull.after [frame] := by
  rw [pull]
  split <;> simp_all

theorem pull_of_steady (hsteady : Steady reader.source) :
    reader.pull.frames = (drain reader.limit reader.ahead).frames ∧
      reader.pull.failure = (drain reader.limit reader.ahead).failureAtEnd .connectionClosed := by
  induction hweight : reader.weight using Nat.strongRecOn generalizing reader with
  | _ weight ih =>
    have hforetold := foretold_readFrame hsteady
    have hcall := nextFrame_eq reader
    generalize hnext : reader.readFrame = call at hforetold hcall
    obtain ⟨answer, next⟩ := call
    cases hforetold with
    | frame htake hlimit hlater =>
      rw [if_neg (fun h => nomatch h.1)] at hcall
      have hrest := ih next.weight (hweight ▸ weight_nextFrame_lt hcall) hlater rfl
      rw [pull_of_frame hcall, drain_of_some htake, ← hlimit]
      exact ⟨congrArg (List.cons _) hrest.1, hrest.2⟩
    | fault htake =>
      have hopen := stopped_ne_of_take? htake (.ok [])
      rw [if_neg (fun h => hopen (Except.error.inj h.1))] at hcall
      rw [pull_of_error hcall, drain_of_error htake]
      exact ⟨rfl, rfl⟩
    | closed htake hbuffer =>
      rw [drain_of_none htake, ← hbuffer]
      by_cases hempty : next.buffer = []
      · rw [if_pos ⟨rfl, hempty⟩] at hcall
        rw [pull_of_none hcall]
        exact ⟨rfl, (if_pos hempty).symm⟩
      · rw [if_neg (fun h => hempty h.2)] at hcall
        rw [pull_of_error hcall]
        exact ⟨rfl, (if_neg hempty).symm⟩

end Reader

namespace Codec

variable {codec : Codec} {buffer rest : Bytes} {frame : Frame}

def bytesRemaining : Error := .io (.described .other "bytes remaining on stream")

theorem decodeEnd_of_error {error : Error} (h : codec.decode buffer = .error error) :
    codec.decodeEnd buffer = .error error := by
  rw [decodeEnd, h]

theorem decodeEnd_of_some (h : codec.decode buffer = .ok (some (frame, rest))) :
    codec.decodeEnd buffer = .ok (some (frame, rest)) := by
  rw [decodeEnd, h]

theorem decodeEnd_of_none (h : codec.decode buffer = .ok none) :
    codec.decodeEnd buffer = if buffer = [] then .ok none else .error bytesRemaining := by
  rw [decodeEnd, h]
  simp only [List.isEmpty_iff, bytesRemaining]

theorem decode_of_decodeEnd (h : codec.decodeEnd buffer = .ok (some (frame, rest))) :
    codec.decode buffer = .ok (some (frame, rest)) := by
  cases hdecode : codec.decode buffer with
  | error error =>
    rw [decodeEnd_of_error hdecode] at h
    cases h
  | ok found =>
    cases found with
    | some found => rwa [decodeEnd_of_some hdecode] at h
    | none =>
      rw [decodeEnd_of_none hdecode] at h
      split at h <;> cases h

def drainEnd (codec : Codec) (buffer : Bytes) : Drained :=
  match _ : codec.decodeEnd buffer with
  | .error error => ⟨[], some error, buffer⟩
  | .ok none => ⟨[], none, buffer⟩
  | .ok (some (frame, rest)) => (codec.drainEnd rest).after [frame]
termination_by buffer.length
decreasing_by
  have hlength := length_of_take? (decode_of_decodeEnd ‹_›)
  simp only [wireSize, encodedSize, headerSize] at hlength
  omega

/-- Decodes a stream that arrives in pieces: after each piece until more bytes are needed, and in the same
way at the end. After a fault nothing more is decoded. -/
def receive (codec : Codec) (pieces : List Bytes) : Drained :=
  let drained := drainChunks codec.limit pieces
  match drained.failure with
  | some _ => drained
  | none => (codec.drainEnd drained.rest).after drained.frames

/-- Where more bytes would be needed, the end is a fault unless nothing is left. -/
theorem drainEnd_of_none (h : codec.decode buffer = .ok none) :
    codec.drainEnd buffer = ⟨[], if buffer = [] then none else some bytesRemaining, buffer⟩ := by
  have hend := decodeEnd_of_none h
  rw [drainEnd]
  by_cases hbuffer : buffer = []
  · rw [if_pos hbuffer] at hend ⊢
    split
    · rename_i error herror
      rw [hend] at herror
      cases herror
    · rfl
    · rename_i frame rest hfound
      rw [hend] at hfound
      cases hfound
  · rw [if_neg hbuffer] at hend ⊢
    split
    · rename_i error herror
      rw [hend] at herror
      rw [Except.error.inj herror]
    · rename_i hnone
      rw [hend] at hnone
      cases hnone
    · rename_i frame rest hfound
      rw [hend] at hfound
      cases hfound

/-- A codec finds in the pieces of a stream what draining all the bytes at once finds. -/
theorem receive_eq (codec : Codec) (pieces : List Bytes) :
    (codec.receive pieces).frames = (drain codec.limit pieces.flatten).frames ∧
      (codec.receive pieces).failure
        = (drain codec.limit pieces.flatten).failureAtEnd bytesRemaining := by
  rw [receive, drainChunks_eq_drain]
  cases hfailure : (drain codec.limit pieces.flatten).failure with
  | some error => simp [Drained.failureAtEnd, hfailure]
  | none =>
    simp only [drainEnd_of_none (take?_rest_of_drain hfailure)]
    simp [Drained.after, Drained.failureAtEnd, hfailure]

end Codec

/-- However a stream is cut for a reader and for a codec, the reader going through its frames and the codec
decoding what is pushed find the frames that are in all its bytes. A header that is refused stops both for
the same fault. Without one the stream ends between two frames for both or inside a frame for both. -/
theorem reader_and_codec_agree (limit : Nat) {source : List ReadEvent} {pieces : List Bytes}
    (hsteady : Steady source) (hcontent : content source = pieces.flatten) :
    let drained := drain limit pieces.flatten
    let pulled := (Reader.fresh limit source).pull
    let pushed := Codec.receive ⟨limit⟩ pieces
    pulled.frames = pushed.frames ∧ pushed.frames = drained.frames ∧
      (∀ error, drained.failure = some error →
        error.IsRefusal limit ∧ pulled.failure = some error ∧ pushed.failure = some error) ∧
      (drained.failure = none →
        (pulled.failure = none ↔ pushed.failure = none) ∧
        (pulled.failure = some .connectionClosed ↔ pushed.failure = some Codec.bytesRemaining) ∧
        (pulled.failure = none ∧ drained.rest = [] ∨
          pulled.failure = some .connectionClosed ∧ drained.rest ≠ [])) := by
  intro drained pulled pushed
  obtain ⟨hpulled, hpulledFailure⟩ := Reader.pull_of_steady
    (show Steady (Reader.fresh limit source).source from hsteady)
  obtain ⟨hpushed, hpushedFailure⟩ := Codec.receive_eq ⟨limit⟩ pieces
  have hahead : (Reader.fresh limit source).ahead = pieces.flatten := hcontent
  rw [hahead] at hpulled hpulledFailure
  have hpulledFailure : pulled.failure = drained.failureAtEnd .connectionClosed := hpulledFailure
  have hpushedFailure : pushed.failure = drained.failureAtEnd Codec.bytesRemaining := hpushedFailure
  refine ⟨hpulled.trans hpushed.symm, hpushed, fun error hfailure => ?_, fun hopen => ?_⟩
  · rw [hpulledFailure, hpushedFailure, Drained.failureAtEnd, Drained.failureAtEnd, hfailure]
    exact ⟨isRefusal_of_drain hfailure, rfl, rfl⟩
  · rw [hpulledFailure, hpushedFailure, Drained.failureAtEnd, Drained.failureAtEnd, hopen]
    by_cases hrest : drained.rest = [] <;> simp [hrest]

/-- A stream that ends inside its second frame, cut in different places and read with an interruption. -/
theorem reader_and_codec_agree_inside_second_frame :
    let wire : Bytes := [0x41, 0x43, 1, 0, 0x61] ++ List.replicate 39 0 ++ [2, 0, 0, 0, 7, 8]
    let source : List ReadEvent :=
      [.data [0x41], .fail (.os 4), .data (wire.drop 1 ++ [0x41, 0x43]), .data [1], .data []]
    let pieces := [wire.take 47, [], wire.drop 47 ++ [0x41, 0x43, 1]]
    let pulled := (Reader.fresh 2 source).pull
    let pushed := Codec.receive ⟨2⟩ pieces
    Steady source ∧ content source = pieces.flatten ∧
      pulled.frames = [⟨"a", 0, .log, [7, 8]⟩] ∧ pushed.frames = [⟨"a", 0, .log, [7, 8]⟩] ∧
      pulled.failure = some .connectionClosed ∧ pushed.failure = some Codec.bytesRemaining := by
  intro wire source pieces pulled pushed
  have hsteady : Steady source := ⟨.inl nofun, rfl, .inl nofun, .inl nofun, .inr rfl, trivial⟩
  have hcontent : content source = pieces.flatten := by decide
  have hwire : Carries 2 wire ⟨"a", 0, .log, [7, 8]⟩ := carries_of_encode rfl (by decide)
  have hdrained : drain 2 pieces.flatten = ⟨[⟨"a", 0, .log, [7, 8]⟩], none, [0x41, 0x43, 1]⟩ := by
    rw [show pieces.flatten = [wire].flatten ++ [0x41, 0x43, 1] by decide,
      drain_carried (.cons hwire .nil), drain_of_none (take?_of_short (by decide))]
    rfl
  obtain ⟨hsame, hframes, -, hopen⟩ := reader_and_codec_agree 2 hsteady hcontent
  rw [hdrained] at hframes hopen
  obtain ⟨-, hclosed, hending⟩ := hopen rfl
  have hcut : pulled.failure = some .connectionClosed := by
    rcases hending with ⟨-, hnothing⟩ | ⟨hcut, -⟩
    · cases hnothing
    · exact hcut
  exact ⟨hsteady, hcontent, hsame.trans hframes, hframes, hcut, hclosed.1 hcut⟩

end Courier.Frame
