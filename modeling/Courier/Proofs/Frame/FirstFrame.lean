import Courier.Frame.Stream
import Courier.Proofs.Frame.Grammar
import Courier.Proofs.Frame.RoundTrip

/-! # The frame at the front of a buffer

`take?` looks at the header only, so what it finds is settled by the bytes that are there: a frame or a
fault stays the same whatever arrives later. The frames it finds are those that `decode` reads.
-/

namespace Courier.Frame

variable {limit : Nat} {buffer rest : Bytes} {frame : Frame} {header : Header}

theorem length_of_parseHeader {bytes : Bytes} (h : parseHeader bytes = .ok header) :
    48 ≤ bytes.length := by
  by_contra hshort
  have hbroken : Rule.complete.FirstBroken bytes :=
    ⟨hshort, fun other hlower => absurd hlower (Nat.not_lt_zero _)⟩
  rw [parseHeader_of_firstBroken hbroken (by decide)] at h
  cases h

theorem slice_append_left {bytes : Bytes} {start size : Nat} (h : start + size ≤ bytes.length)
    (more : Bytes) : Bytes.slice (bytes ++ more) start size = bytes.slice start size := by
  rw [Bytes.slice, Bytes.slice, List.drop_append_of_le_length (by omega),
    List.take_append_of_le_length (by rw [List.length_drop]; omega)]

theorem parseHeader_append {bytes : Bytes} (h : 48 ≤ bytes.length) (more : Bytes) :
    parseHeader (bytes ++ more) = parseHeader bytes := by
  have hlong : 48 ≤ (bytes ++ more).length := by
    rw [List.length_append]
    omega
  have hbyte {offset : Nat} (hoffset : offset < 48) :
      (bytes ++ more).getD offset 0 = bytes.getD offset 0 := by
    rw [List.getD_eq_getElem?_getD, List.getD_eq_getElem?_getD,
      List.getElem?_append_left (Nat.lt_of_lt_of_le hoffset h)]
  have hslice {start size : Nat} (hend : start + size ≤ 48) :
      Bytes.slice (bytes ++ more) start size = bytes.slice start size :=
    slice_append_left (Nat.le_trans hend h) more
  rw [parseHeader, parseHeader, shorterThan_headerSize hlong, shorterThan_headerSize h,
    if_neg Bool.false_ne_true, if_neg Bool.false_ne_true, hbyte (by decide), hbyte (by decide),
    hslice (by decide), hslice (by decide), hslice (by decide), hslice (by decide)]

theorem take?_of_short (h : buffer.length < 48) : take? limit buffer = .ok none :=
  if_pos ((Bytes.shorterThan_iff _ _).2 h)

theorem take?_of_parseHeader_error {error : Error} (hlong : 48 ≤ buffer.length)
    (h : parseHeader buffer = .error error) : take? limit buffer = .error error := by
  rw [take?, shorterThan_headerSize hlong, if_neg Bool.false_ne_true, h]

theorem take?_of_parseHeader_ok (h : parseHeader buffer = .ok header) :
    take? limit buffer =
      if limit < header.payloadSize then .error (.payloadTooLarge header.payloadSize limit)
      else if buffer.length < 48 + header.payloadSize then .ok none
      else .ok (some (header.frame (buffer.slice 48 header.payloadSize),
        buffer.drop (48 + header.payloadSize))) := by
  rw [take?, shorterThan_headerSize (length_of_parseHeader h), if_neg Bool.false_ne_true, h]
  simp only [gt_iff_lt, encodedSize, headerSize, Bytes.shorterThan_iff]

theorem take?_cases (limit : Nat) (buffer : Bytes) :
    (buffer.length < 48 ∧ take? limit buffer = .ok none) ∨
    (∃ error, 48 ≤ buffer.length ∧ parseHeader buffer = .error error ∧
      take? limit buffer = .error error) ∨
    ∃ header, parseHeader buffer = .ok header ∧
      ((limit < header.payloadSize ∧
          take? limit buffer = .error (.payloadTooLarge header.payloadSize limit)) ∨
        (header.payloadSize ≤ limit ∧ buffer.length < 48 + header.payloadSize ∧
          take? limit buffer = .ok none) ∨
        (header.payloadSize ≤ limit ∧ 48 + header.payloadSize ≤ buffer.length ∧
          take? limit buffer = .ok (some (header.frame (buffer.slice 48 header.payloadSize),
            buffer.drop (48 + header.payloadSize))))) := by
  rcases Nat.lt_or_ge buffer.length 48 with hshort | hlong
  · exact .inl ⟨hshort, take?_of_short hshort⟩
  right
  cases hparse : parseHeader buffer with
  | error error => exact .inl ⟨error, hlong, rfl, take?_of_parseHeader_error hlong hparse⟩
  | ok header =>
    refine .inr ⟨header, rfl, ?_⟩
    rw [take?_of_parseHeader_ok hparse]
    rcases Nat.lt_or_ge limit header.payloadSize with hlimit | hlimit
    · exact .inl ⟨hlimit, if_pos hlimit⟩
    rw [if_neg (Nat.not_lt.2 hlimit)]
    rcases Nat.lt_or_ge buffer.length (48 + header.payloadSize) with hsize | hsize
    · exact .inr (.inl ⟨hlimit, hsize, if_pos hsize⟩)
    · exact .inr (.inr ⟨hlimit, hsize, if_neg (Nat.not_lt.2 hsize)⟩)

theorem take?_eq_some_iff :
    take? limit buffer = .ok (some (frame, rest)) ↔
      ∃ header, parseHeader buffer = .ok header ∧ header.payloadSize ≤ limit ∧
        48 + header.payloadSize ≤ buffer.length ∧
        frame = header.frame (buffer.slice 48 header.payloadSize) ∧
        rest = buffer.drop (48 + header.payloadSize) := by
  constructor
  · intro h
    rcases take?_cases limit buffer with ⟨-, htake⟩ | ⟨error, -, -, htake⟩ |
      ⟨header, hparse, ⟨-, htake⟩ | ⟨-, -, htake⟩ | ⟨hlimit, hsize, htake⟩⟩
    all_goals
      rw [htake] at h
      cases h
    exact ⟨header, hparse, hlimit, hsize, rfl, rfl⟩
  · rintro ⟨header, hparse, hlimit, hsize, rfl, rfl⟩
    rw [take?_of_parseHeader_ok hparse, if_neg (Nat.not_lt.2 hlimit), if_neg (Nat.not_lt.2 hsize)]

theorem take?_eq_error_iff {error : Error} :
    take? limit buffer = .error error ↔
      48 ≤ buffer.length ∧ (parseHeader buffer = .error error ∨
        ∃ header, parseHeader buffer = .ok header ∧ limit < header.payloadSize ∧
          error = .payloadTooLarge header.payloadSize limit) := by
  constructor
  · intro h
    rcases take?_cases limit buffer with ⟨-, htake⟩ | ⟨fault, hlong, hparse, htake⟩ |
      ⟨header, hparse, ⟨hlimit, htake⟩ | ⟨-, -, htake⟩ | ⟨-, -, htake⟩⟩
    all_goals
      rw [htake] at h
      cases h
    · exact ⟨hlong, .inl hparse⟩
    · exact ⟨length_of_parseHeader hparse, .inr ⟨header, hparse, hlimit, rfl⟩⟩
  · rintro ⟨hlong, hparse | ⟨header, hparse, hlimit, rfl⟩⟩
    · exact take?_of_parseHeader_error hlong hparse
    · rw [take?_of_parseHeader_ok hparse, if_pos hlimit]

/-- A buffer is refused for the content of its header or for the size that it declares. -/
theorem isDecoding_or_tooLarge_of_take? {error : Error} (h : take? limit buffer = .error error) :
    error.isDecoding = true ∨ ∃ size, error = .payloadTooLarge size limit := by
  obtain ⟨-, hparse | ⟨header, -, -, rfl⟩⟩ := take?_eq_error_iff.1 h
  · exact .inl (isDecoding_of_parseHeader hparse)
  · exact .inr ⟨_, rfl⟩

theorem take?_append_of_some (h : take? limit buffer = .ok (some (frame, rest))) (more : Bytes) :
    take? limit (buffer ++ more) = .ok (some (frame, rest ++ more)) := by
  obtain ⟨header, hparse, hlimit, hsize, rfl, rfl⟩ := take?_eq_some_iff.1 h
  refine take?_eq_some_iff.2 ⟨header, ?_, hlimit, ?_, ?_, ?_⟩
  · rw [parseHeader_append (length_of_parseHeader hparse), hparse]
  · rw [List.length_append]
    exact Nat.le_add_right_of_le hsize
  · rw [slice_append_left hsize]
  · rw [List.drop_append_of_le_length hsize]

theorem take?_append_of_error {error : Error} (h : take? limit buffer = .error error) (more : Bytes) :
    take? limit (buffer ++ more) = .error error := by
  obtain ⟨hlong, hfault⟩ := take?_eq_error_iff.1 h
  refine take?_eq_error_iff.2 ⟨?_, ?_⟩
  · rw [List.length_append]
    exact Nat.le_add_right_of_le hlong
  · rw [parseHeader_append hlong]
    exact hfault

structure Carries (limit : Nat) (wire : Bytes) (frame : Frame) : Prop where
  decoded : decode wire = .ok frame.view
  within : frame.payload.length ≤ limit

theorem carries_of_encode {wire : Bytes} (h : frame.encode = .ok wire)
    (hlimit : frame.payload.length ≤ limit) : Carries limit wire frame :=
  ⟨decode_of_encode h, hlimit⟩

theorem view_injective {left right : Frame} (h : left.view = right.view) : left = right :=
  Option.some.inj (congrArg View.toFrame? h)

theorem decode_eq_view_iff {wire : Bytes} :
    decode wire = .ok frame.view ↔
      ∃ header, parseHeader wire = .ok header ∧ header.payloadSize = wire.length - 48 ∧
        frame = header.frame (wire.drop 48) := by
  constructor
  · intro h
    have hne : wire ≠ [] := by
      rintro rfl
      exact absurd (congrArg View.kind (Except.ok.inj h)) nofun
    cases hparse : parseHeader wire with
    | error error =>
      rw [decode_of_parseHeader_error hne hparse] at h
      cases h
    | ok header =>
      rw [decode_of_parseHeader_ok hne hparse] at h
      split at h
      · rename_i hsize
        exact ⟨header, rfl, hsize, (view_injective (Except.ok.inj h)).symm⟩
      · cases h
  · rintro ⟨header, hparse, hsize, rfl⟩
    have hne : wire ≠ [] := by
      rintro rfl
      exact absurd (length_of_parseHeader hparse) (by decide)
    rw [decode_of_parseHeader_ok hne hparse, if_pos hsize]

theorem Carries.take?_append {wire : Bytes} (h : Carries limit wire frame) (rest : Bytes) :
    take? limit (wire ++ rest) = .ok (some (frame, rest)) := by
  obtain ⟨header, hparse, hsize, rfl⟩ := decode_eq_view_iff.1 h.decoded
  have hlong := length_of_parseHeader hparse
  have hend : 48 + header.payloadSize = wire.length := by omega
  have hpayload : (wire.drop 48).length = header.payloadSize := by
    rw [List.length_drop, hsize]
  refine take?_eq_some_iff.2 ⟨header, ?_, ?_, ?_, ?_, ?_⟩
  · rw [parseHeader_append hlong, hparse]
  · rw [← hpayload]
    exact h.within
  · rw [hend, List.length_append]
    exact Nat.le_add_right _ _
  · rw [slice_append_left (Nat.le_of_eq hend), Bytes.slice, List.take_of_length_le (Nat.le_of_eq hpayload)]
  · rw [hend, List.drop_left]

theorem exists_carries_of_take? (h : take? limit buffer = .ok (some (frame, rest))) :
    ∃ wire, Carries limit wire frame ∧ buffer = wire ++ rest := by
  obtain ⟨header, hparse, hlimit, hsize, rfl, rfl⟩ := take?_eq_some_iff.1 h
  have hlength : (buffer.take (48 + header.payloadSize)).length = 48 + header.payloadSize :=
    List.length_take_of_le hsize
  have hlong : 48 ≤ (buffer.take (48 + header.payloadSize)).length := by omega
  refine ⟨buffer.take (48 + header.payloadSize), ⟨?_, ?_⟩, (List.take_append_drop _ _).symm⟩
  · refine decode_eq_view_iff.2 ⟨header, ?_, ?_, ?_⟩
    · rw [← parseHeader_append hlong (buffer.drop (48 + header.payloadSize)),
        List.take_append_drop, hparse]
    · rw [hlength, Nat.add_sub_cancel_left]
    · rw [List.drop_take, Nat.add_sub_cancel_left]
      rfl
  · exact Nat.le_trans (List.length_take_le _ _) hlimit

end Courier.Frame
