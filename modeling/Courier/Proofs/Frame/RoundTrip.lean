import Courier.Frame.Wire

/-! # Encoding and decoding undo each other

A frame has a wire form exactly when its provider id fits the field of the header and the size of its
payload fits the length field; these frames are the `Encodable` ones. The wire form is decoded to the
view of the frame it was made from.
-/

namespace Courier.Frame

variable {frame : Frame} {wire : Bytes}

structure Encodable (frame : Frame) : Prop where
  short : (Text.utf8 frame.provider).length ≤ 32
  noNul : 0 ∉ Text.utf8 frame.provider
  countable : frame.payload.length ≤ 4294967295

theorem checkProvider_eq_ok_iff {provider : String} {size : Nat} :
    checkProvider provider = .ok size ↔
      (Text.utf8 provider).length ≤ 32 ∧ 0 ∉ Text.utf8 provider ∧
        (Text.utf8 provider).length = size := by
  unfold checkProvider
  by_cases hlong : (Text.utf8 provider).length > providerSize
  · rw [if_pos hlong]
    simp only [reduceCtorEq, false_iff, providerSize] at hlong ⊢
    omega
  · have hshort : (Text.utf8 provider).length ≤ 32 := Nat.not_lt.1 hlong
    rw [if_neg hlong]
    by_cases hzero : 0 ∈ Text.utf8 provider
    · simp [hzero]
    · simp [hzero, hshort]

theorem encode_eq_ok_iff :
    frame.encode = .ok wire ↔ frame.Encodable ∧ wire = frame.header ++ frame.payload := by
  constructor
  · intro h
    unfold encode at h
    cases hcheck : checkProvider frame.provider with
    | error error => simp [hcheck] at h
    | ok size =>
      obtain ⟨hshort, hzero, -⟩ := checkProvider_eq_ok_iff.1 hcheck
      simp only [hcheck] at h
      split at h
      · cases h
      · rename_i hpayload
        exact ⟨⟨hshort, hzero, Nat.not_lt.1 hpayload⟩, (Except.ok.inj h).symm⟩
  · rintro ⟨hframe, rfl⟩
    have hcheck := checkProvider_eq_ok_iff.2 ⟨hframe.short, hframe.noNul, rfl⟩
    have hpayload : ¬ frame.payload.length > largestPayload := Nat.not_lt.2 hframe.countable
    rw [encode, hcheck]
    simp only [if_neg hpayload]

theorem Encodable.length_header (h : frame.Encodable) : frame.header.length = headerSize :=
  Frame.length_header h.short

theorem length_of_encode (h : frame.encode = .ok wire) : wire.length = frame.wireSize := by
  obtain ⟨hframe, rfl⟩ := encode_eq_ok_iff.1 h
  rw [List.length_append, hframe.length_header]
  rfl

theorem Encodable.parseHeader (h : frame.Encodable) (rest : Bytes) :
    parseHeader (frame.header ++ rest) =
      .ok ⟨frame.provider, frame.answerId, frame.kind, frame.payload.length⟩ :=
  parseHeader_header_append frame rest h.short h.noNul h.countable

theorem decode_of_encode (h : frame.encode = .ok wire) : decode wire = .ok frame.view := by
  obtain ⟨hframe, rfl⟩ := encode_eq_ok_iff.1 h
  have hlength := hframe.length_header
  have hnonempty : (frame.header ++ frame.payload).isEmpty = false := by
    cases hheader : frame.header with
    | nil => simp [hheader, headerSize] at hlength
    | cons byte rest => rfl
  have hpayload : (frame.header ++ frame.payload).drop headerSize = frame.payload := by
    rw [← hlength, List.drop_left]
  rw [decode, hnonempty, hframe.parseHeader, hpayload]
  simp [Header.frame]

/-- A frame is encoded exactly when its provider id has at most 32 bytes and no NUL and its payload at
most 2³² - 1 bytes. Decoding the wire form shows every part of the frame, and the frame that is read off
is the one that was encoded, with the same wire form. -/
theorem encode_decode_round_trip (frame : Frame) :
    ((∃ wire, frame.encode = .ok wire) ↔ frame.Encodable) ∧
      ∀ wire, frame.encode = .ok wire →
        wire.length = 48 + frame.payload.length ∧
          ∃ view, decode wire = .ok view ∧
            view.provider = frame.provider ∧ view.answerId = frame.answerId ∧
            view.kind = some frame.kind ∧ view.payload = frame.payload ∧
            ∃ again, view.toFrame? = some again ∧ again = frame ∧ again.encode = .ok wire := by
  refine ⟨⟨?_, ?_⟩, ?_⟩
  · rintro ⟨wire, hwire⟩
    exact (encode_eq_ok_iff.1 hwire).1
  · intro hframe
    exact ⟨_, encode_eq_ok_iff.2 ⟨hframe, rfl⟩⟩
  · intro wire hwire
    refine ⟨length_of_encode hwire, frame.view, decode_of_encode hwire, rfl, rfl, rfl, rfl, ?_⟩
    exact ⟨frame, toFrame?_view frame, rfl, hwire⟩

/-- An id of two-byte characters that leaves no room for padding, and the largest answer id. -/
theorem round_trip_without_padding :
    let frame : Frame := ⟨"éééééééééééééééé", 18446744073709551615, .segment, [0, 255]⟩
    let wire : Bytes := [0x41, 0x43, 1, 1] ++ (List.replicate 16 [0xC3, 0xA9]).flatten
      ++ List.replicate 8 255 ++ [2, 0, 0, 0, 0, 255]
    frame.encode = .ok wire ∧
      wire.length = 48 + frame.payload.length ∧
        ∃ view, decode wire = .ok view ∧
          view.provider = frame.provider ∧ view.answerId = frame.answerId ∧
          view.kind = some frame.kind ∧ view.payload = frame.payload ∧
          ∃ again, view.toFrame? = some again ∧ again = frame ∧ again.encode = .ok wire := by
  intro frame wire
  have hframe : frame.Encodable := ⟨by decide, by decide, by decide⟩
  have hwire : frame.encode = .ok wire := encode_eq_ok_iff.2 ⟨hframe, by decide⟩
  exact ⟨hwire, (encode_decode_round_trip frame).2 wire hwire⟩

end Courier.Frame
