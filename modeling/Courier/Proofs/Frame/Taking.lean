import Courier.Proofs.Frame.FirstFrame

/-! # Taking a frame off a buffer in place

`takeFrom` is `take?` on a buffer that keeps what is left. A frame is taken exactly if a message that
`decode` accepts stands at the front, and then there is only one such message. The verdict on a header is
final, and nothing but a frame is ever taken away.
-/

namespace Courier.Frame

variable {limit : Nat} {buffer rest : Bytes} {frame : Frame}

/-- Takes a complete frame off the front of a buffer, first the header and then the payload, and hands the
buffer back. -/
def takeFrom (limit : Nat) (buffer : Bytes) : Except Error (Option Frame) × Bytes :=
  if buffer.shorterThan headerSize then (.ok none, buffer)
  else
    match parseHeader buffer with
    | .error error => (.error error, buffer)
    | .ok header =>
      if header.payloadSize > limit then (.error (.payloadTooLarge header.payloadSize limit), buffer)
      else if buffer.shorterThan (encodedSize header.payloadSize) then (.ok none, buffer)
      else
        let body := buffer.drop headerSize
        (.ok (some (header.frame (body.take header.payloadSize))), body.drop header.payloadSize)

theorem takeFrom_eq (limit : Nat) (buffer : Bytes) :
    takeFrom limit buffer =
      match take? limit buffer with
      | .error error => (.error error, buffer)
      | .ok none => (.ok none, buffer)
      | .ok (some (frame, rest)) => (.ok (some frame), rest) := by
  unfold takeFrom take?
  by_cases hshort : buffer.shorterThan headerSize = true
  · rw [if_pos hshort, if_pos hshort]
  rw [if_neg hshort, if_neg hshort]
  cases parseHeader buffer with
  | error error => rfl
  | ok header =>
    dsimp only
    by_cases hlimit : header.payloadSize > limit
    · rw [if_pos hlimit, if_pos hlimit]
    rw [if_neg hlimit, if_neg hlimit]
    by_cases hsize : buffer.shorterThan (encodedSize header.payloadSize) = true
    · rw [if_pos hsize, if_pos hsize]
    · rw [if_neg hsize, if_neg hsize, List.drop_drop]
      rfl

theorem takeFrom_eq_some_iff :
    takeFrom limit buffer = (.ok (some frame), rest) ↔ take? limit buffer = .ok (some (frame, rest)) := by
  rw [takeFrom_eq]
  rcases take? limit buffer with error | _ | ⟨found, left⟩ <;> simp

theorem takeFrom_eq_none_iff {left : Bytes} :
    takeFrom limit buffer = (.ok none, left) ↔ take? limit buffer = .ok none ∧ left = buffer := by
  rw [takeFrom_eq]
  rcases take? limit buffer with error | _ | ⟨found, left⟩ <;> simp [eq_comm]

theorem takeFrom_eq_error_iff {error : Error} {left : Bytes} :
    takeFrom limit buffer = (.error error, left) ↔ take? limit buffer = .error error ∧ left = buffer := by
  rw [takeFrom_eq]
  rcases take? limit buffer with fault | _ | ⟨found, left⟩ <;> simp [eq_comm]

/-- The buffer starts with a message that is decoded to a frame with a payload within the limit. -/
structure StartsWith (limit : Nat) (buffer wire : Bytes) (frame : Frame) (rest : Bytes) : Prop where
  ne_nil : wire ≠ []
  split : buffer = wire ++ rest
  decoded : ∃ view, decode wire = .ok view ∧ view.toFrame? = some frame
  within : frame.payload.length ≤ limit

theorem startsWith_iff {wire : Bytes} :
    StartsWith limit buffer wire frame rest ↔ Carries limit wire frame ∧ buffer = wire ++ rest := by
  constructor
  · rintro ⟨-, hsplit, ⟨view, hview, hframe⟩, hwithin⟩
    rw [View.toFrame?_eq_some_iff.1 hframe] at hview
    exact ⟨⟨hview, hwithin⟩, hsplit⟩
  · rintro ⟨⟨hdecoded, hwithin⟩, hsplit⟩
    refine ⟨?_, hsplit, ⟨frame.view, hdecoded, toFrame?_view frame⟩, hwithin⟩
    rintro rfl
    obtain ⟨header, hparse, -⟩ := decode_eq_view_iff.1 hdecoded
    exact absurd (length_of_parseHeader hparse) (by decide)

theorem take?_eq_some_iff_startsWith :
    take? limit buffer = .ok (some (frame, rest)) ↔ ∃ wire, StartsWith limit buffer wire frame rest := by
  constructor
  · intro h
    obtain ⟨wire, hcarries, hsplit⟩ := exists_carries_of_take? h
    exact ⟨wire, startsWith_iff.2 ⟨hcarries, hsplit⟩⟩
  · rintro ⟨wire, h⟩
    obtain ⟨hcarries, rfl⟩ := startsWith_iff.1 h
    exact hcarries.take?_append rest

/-- Both messages are what is taken off, so the same is left behind them. -/
theorem StartsWith.unique {wire other : Bytes} {found : Frame} {left : Bytes}
    (h : StartsWith limit buffer wire frame rest) (hother : StartsWith limit buffer other found left) :
    wire = other := by
  have htake := take?_eq_some_iff_startsWith.2 ⟨wire, h⟩
  rw [take?_eq_some_iff_startsWith.2 ⟨other, hother⟩] at htake
  obtain ⟨rfl, rfl⟩ : found = frame ∧ left = rest := by simpa using htake
  exact List.append_cancel_right (h.split.symm.trans hother.split)

/-- The bytes begin with a header; the rule on the length of the whole message is not about it. -/
def HasHeader (bytes : Bytes) : Prop :=
  ∀ rule : Rule, rule ≠ .length → rule.Holds bytes

theorem hasHeader_of_parseHeader {bytes : Bytes} {header : Header} (h : parseHeader bytes = .ok header) :
    HasHeader bytes ∧ header.payloadSize = declaredSize bytes := by
  have hvalid : HasHeader bytes := by
    rcases Rule.holds_or_firstBroken bytes with hall | ⟨broken, hbroken⟩
    · exact fun rule _ => hall rule
    · have hlength : broken = .length := by
        by_contra hne
        rw [parseHeader_of_firstBroken hbroken hne] at h
        cases h
      subst hlength
      intro rule hrule
      exact hbroken.earlier rule (by revert hrule; cases rule <;> decide)
  obtain ⟨read, hread, hfrom⟩ := parseHeader_of_holds hvalid
  obtain rfl := Except.ok.inj (h.symm.trans hread)
  exact ⟨hvalid, hfrom.payloadSize⟩

theorem not_hasHeader_of_parseHeader {bytes : Bytes} {error : Error} (h : parseHeader bytes = .error error) :
    ¬ HasHeader bytes := by
  intro hvalid
  obtain ⟨header, hheader, -⟩ := parseHeader_of_holds hvalid
  rw [h] at hheader
  cases hheader

/-- A header is settled by its own bytes. -/
theorem parseHeader_take (h : 48 ≤ buffer.length) : parseHeader (buffer.take 48) = parseHeader buffer := by
  have hlong : 48 ≤ (buffer.take 48).length := by
    rw [List.length_take]
    omega
  rw [← parseHeader_append hlong (buffer.drop 48), List.take_append_drop]

theorem parseHeader_ne_missing (h : 48 ≤ buffer.length) {error : Error}
    (hparse : parseHeader buffer = .error error) :
    (∀ size need, error ≠ .truncated size need) ∧ ∀ declared actual, error ≠ .lengthMismatch declared actual := by
  rcases Rule.holds_or_firstBroken buffer with hall | ⟨broken, hbroken⟩
  · exact absurd (fun rule _ => hall rule) (not_hasHeader_of_parseHeader hparse)
  · cases broken with
    | complete => exact absurd h hbroken.broken
    | length =>
      refine absurd (fun rule hrule => ?_) (not_hasHeader_of_parseHeader hparse)
      exact hbroken.earlier rule (by revert hrule; cases rule <;> decide)
    | magic | version | kind | provider =>
      rw [parseHeader_of_firstBroken hbroken nofun] at hparse
      obtain rfl := Except.error.inj hparse
      exact ⟨nofun, nofun⟩

/-- More bytes are needed: for the header, or for a payload within the limit. -/
def Incomplete (limit : Nat) (buffer : Bytes) : Prop :=
  buffer.length < 48 ∨ HasHeader (buffer.take 48) ∧ declaredSize (buffer.take 48) ≤ limit ∧
    buffer.length < 48 + declaredSize (buffer.take 48)

theorem take?_eq_none_iff : take? limit buffer = .ok none ↔ Incomplete limit buffer := by
  rcases take?_cases limit buffer with ⟨hshort, htake⟩ | ⟨error, hlong, hparse, htake⟩ |
    ⟨header, hparse, hcases⟩
  · exact ⟨fun _ => .inl hshort, fun _ => htake⟩
  · have hheader := not_hasHeader_of_parseHeader ((parseHeader_take hlong).trans hparse)
    rw [htake]
    refine ⟨nofun, ?_⟩
    rintro (hshort | ⟨hvalid, -⟩)
    · omega
    · exact absurd hvalid hheader
  · have hlong := length_of_parseHeader hparse
    obtain ⟨hvalid, hsize⟩ := hasHeader_of_parseHeader ((parseHeader_take hlong).trans hparse)
    rw [Incomplete, ← hsize]
    rcases hcases with ⟨hlimit, htake⟩ | ⟨hlimit, hmore, htake⟩ | ⟨hlimit, hmore, htake⟩
    · rw [htake]
      refine ⟨nofun, ?_⟩
      rintro (hshort | ⟨-, hwithin, -⟩)
      · omega
      · omega
    · exact ⟨fun _ => .inr ⟨hvalid, hlimit, hmore⟩, fun _ => htake⟩
    · rw [htake]
      refine ⟨nofun, ?_⟩
      rintro (hshort | ⟨-, -, hless⟩)
      · omega
      · omega

theorem take?_eq_payloadTooLarge_iff {size max : Nat} :
    take? limit buffer = .error (.payloadTooLarge size max) ↔
      HasHeader (buffer.take 48) ∧ size = declaredSize (buffer.take 48) ∧ max = limit ∧ limit < size := by
  rw [take?_eq_error_iff]
  constructor
  · rintro ⟨hlong, hparse | ⟨header, hparse, hlimit, herror⟩⟩
    · have hdecoding := isDecoding_of_parseHeader hparse
      cases hdecoding
    · obtain ⟨hvalid, hsize⟩ := hasHeader_of_parseHeader ((parseHeader_take hlong).trans hparse)
      obtain ⟨rfl, rfl⟩ := Error.payloadTooLarge.inj herror
      exact ⟨hvalid, hsize, rfl, hlimit⟩
  · rintro ⟨hvalid, rfl, rfl, hlimit⟩
    have hcomplete : 48 ≤ (buffer.take 48).length := hvalid .complete (by decide)
    have hlong : 48 ≤ buffer.length := Nat.le_trans hcomplete (List.length_take_le' 48 buffer)
    obtain ⟨header, hparse, hfrom⟩ := parseHeader_of_holds hvalid
    rw [← hfrom.payloadSize] at hlimit ⊢
    exact ⟨hlong, .inr ⟨header, (parseHeader_take hlong).symm.trans hparse, hlimit, rfl⟩⟩

theorem ne_missing_of_take? {error : Error} (h : take? limit buffer = .error error) :
    (∀ size need, error ≠ .truncated size need) ∧ ∀ declared actual, error ≠ .lengthMismatch declared actual := by
  obtain ⟨hlong, hparse | ⟨header, -, -, rfl⟩⟩ := take?_eq_error_iff.1 h
  · exact parseHeader_ne_missing hlong hparse
  · exact ⟨nofun, nofun⟩

/-- A frame is taken off a buffer exactly if the buffer starts with a message that is decoded to it and has
a payload within the limit, and there is one such message at most. The answer is that more bytes are needed
exactly if the header, or the payload that a valid one declares within the limit, is not all there. In all
other cases it is an error: never one for missing bytes, and the one for a payload that is too large exactly
if a valid header declares more than the limit. Without a frame the buffer stays as it is, and an error
stays the same whatever arrives later. -/
theorem takeFrom_takes_first_message (limit : Nat) (buffer : Bytes) :
    (∀ frame rest, takeFrom limit buffer = (.ok (some frame), rest) ↔
        ∃ wire, StartsWith limit buffer wire frame rest) ∧
      (∀ wire frame rest other found left, StartsWith limit buffer wire frame rest →
        StartsWith limit buffer other found left → wire = other) ∧
      ((takeFrom limit buffer).1 = .ok none ↔ Incomplete limit buffer) ∧
      ((¬ ∃ wire frame rest, StartsWith limit buffer wire frame rest) → ¬ Incomplete limit buffer →
        ∃ error, (takeFrom limit buffer).1 = .error error) ∧
      (∀ size max, (takeFrom limit buffer).1 = .error (.payloadTooLarge size max) ↔
        HasHeader (buffer.take 48) ∧ size = declaredSize (buffer.take 48) ∧ max = limit ∧ limit < size) ∧
      ((∀ frame, (takeFrom limit buffer).1 ≠ .ok (some frame)) → (takeFrom limit buffer).2 = buffer) ∧
      ∀ error, (takeFrom limit buffer).1 = .error error →
        (∀ size need, error ≠ .truncated size need) ∧
          (∀ declared actual, error ≠ .lengthMismatch declared actual) ∧
          ∀ more, takeFrom limit (buffer ++ more) = (.error error, buffer ++ more) := by
  have hfirst : ∀ frame rest, takeFrom limit buffer = (.ok (some frame), rest) ↔
      ∃ wire, StartsWith limit buffer wire frame rest :=
    fun frame rest => takeFrom_eq_some_iff.trans take?_eq_some_iff_startsWith
  have hnone : (takeFrom limit buffer).1 = .ok none ↔ Incomplete limit buffer := by
    rw [← take?_eq_none_iff, takeFrom_eq]
    rcases take? limit buffer with error | _ | ⟨frame, rest⟩ <;> simp
  have herror (error : Error) :
      (takeFrom limit buffer).1 = .error error ↔ take? limit buffer = .error error := by
    rw [takeFrom_eq]
    rcases take? limit buffer with fault | _ | ⟨frame, rest⟩ <;> simp
  refine ⟨hfirst, fun _ _ _ _ _ _ h hother => h.unique hother, hnone, fun hstart hmore => ?_,
    fun size max => (herror _).trans take?_eq_payloadTooLarge_iff, fun hframe => ?_, fun error h => ?_⟩
  · rcases htaken : takeFrom limit buffer with ⟨error | _ | frame, rest⟩
    · exact ⟨error, rfl⟩
    · exact absurd (hnone.1 (by rw [htaken])) hmore
    · obtain ⟨wire, hwire⟩ := (hfirst frame rest).1 htaken
      exact absurd ⟨wire, frame, rest, hwire⟩ hstart
  · rcases htaken : takeFrom limit buffer with ⟨error | _ | frame, rest⟩
    · exact (takeFrom_eq_error_iff.1 htaken).2
    · exact (takeFrom_eq_none_iff.1 htaken).2
    · exact absurd (by rw [htaken]) (hframe frame)
  · have htake := (herror error).1 h
    obtain ⟨htruncated, hmismatch⟩ := ne_missing_of_take? htake
    refine ⟨htruncated, hmismatch, fun more => ?_⟩
    exact takeFrom_eq_error_iff.2 ⟨take?_append_of_error htake more, rfl⟩

/-- The first of two frames is taken, a part of it asks for more, and a header that declares three bytes is
refused for good where two are allowed. -/
theorem takeFrom_takes_first_message_of_two :
    let first : Bytes := [0x41, 0x43, 1, 0, 0x61] ++ List.replicate 39 0 ++ [2, 0, 0, 0, 7, 8]
    let second : Bytes := [0x41, 0x43, 1, 3, 0xC3, 0xA9] ++ List.replicate 42 0
    let large : Bytes := [0x41, 0x43, 1, 1] ++ List.replicate 40 0 ++ [3, 0, 0, 0]
    StartsWith 2 (first ++ second) first ⟨"a", 0, .log, [7, 8]⟩ second ∧
      takeFrom 2 (first ++ second) = (.ok (some ⟨"a", 0, .log, [7, 8]⟩), second) ∧
      (∀ wire frame rest, StartsWith 2 (first ++ second) wire frame rest → first = wire) ∧
      (takeFrom 2 (first.take 49)).1 = .ok none ∧ (takeFrom 2 (first.take 49)).2 = first.take 49 ∧
      (takeFrom 2 large).1 = .error (.payloadTooLarge 3 2) ∧
      ∀ more, takeFrom 2 (large ++ more) = (.error (.payloadTooLarge 3 2), large ++ more) := by
  intro first second large
  have hencode : (⟨"a", 0, .log, [7, 8]⟩ : Frame).encode = .ok first := rfl
  have hstart : StartsWith 2 (first ++ second) first ⟨"a", 0, .log, [7, 8]⟩ second :=
    startsWith_iff.2 ⟨carries_of_encode hencode (by decide), rfl⟩
  obtain ⟨htaken, hunique, -⟩ := takeFrom_takes_first_message 2 (first ++ second)
  obtain ⟨-, -, -, -, -, hkept, -⟩ := takeFrom_takes_first_message 2 (first.take 49)
  obtain ⟨-, -, -, -, -, -, hfinal⟩ := takeFrom_takes_first_message 2 large
  have hmore : (takeFrom 2 (first.take 49)).1 = .ok none := by decide
  have hlarge : (takeFrom 2 large).1 = .error (.payloadTooLarge 3 2) := by decide
  refine ⟨hstart, (htaken _ _).2 ⟨first, hstart⟩, fun wire frame rest h => ?_, hmore, ?_, hlarge, ?_⟩
  · exact hunique _ _ _ wire frame rest hstart h
  · exact hkept fun frame h => by rw [hmore] at h; cases h
  · exact (hfinal _ hlarge).2.2

end Courier.Frame
