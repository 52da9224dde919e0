import Courier.Proofs.Frame.Agreement
import Courier.Proofs.Frame.Taking

/-! # What a reader keeps in its buffer

A reader asks its source for more only while less than one admissible frame is buffered, and one read
delivers 8192 bytes at most. So the limit on payloads bounds the buffer, whatever a source sends and in
whatever way the frames are asked for, and `bounds_are_met` says that no smaller bounds would do. A header
that declares too much is refused where it stands, and nothing is read behind it.
-/

namespace Courier.Frame

variable {limit : Nat} {buffer rest : Bytes} {frame : Frame}

theorem length_of_take?_none (h : take? limit buffer = .ok none) : buffer.length ≤ 47 + limit := by
  rcases take?_eq_none_iff.1 h with hshort | ⟨-, hlimit, hmore⟩
  · omega
  · omega

theorem take?_none_of_append {more : Bytes} (h : take? limit (buffer ++ more) = .ok none) :
    take? limit buffer = .ok none := by
  rcases htake : take? limit buffer with error | _ | ⟨frame, left⟩
  · rw [take?_append_of_error htake] at h
    cases h
  · rfl
  · rw [take?_append_of_some htake] at h
    cases h

theorem Carries.take?_of_cut {part : Bytes} (h : Carries limit (part ++ rest) frame)
    (hrest : rest ≠ []) : take? limit part = .ok none := by
  have hwhole : take? limit (part ++ rest) = .ok (some (frame, [])) := by
    simpa using h.take?_append []
  rcases htake : take? limit part with error | _ | ⟨found, left⟩
  · rw [take?_append_of_error htake] at hwhole
    cases hwhole
  · rfl
  · rw [take?_append_of_some htake] at hwhole
    obtain ⟨-, hnothing⟩ := Prod.mk.inj (Option.some.inj (Except.ok.inj hwhole))
    exact absurd (List.append_eq_nil_iff.1 hnothing).2 hrest

theorem exists_encode_of_size {size : Nat} (h : size ≤ 4294967295) :
    ∃ (frame : Frame) (wire : Bytes), frame.encode = .ok wire ∧ frame.payload.length = size := by
  refine ⟨⟨"", 0, .log, List.replicate size 0⟩, _, encode_eq_ok_iff.2 ⟨⟨?_, ?_, ?_⟩, rfl⟩, ?_⟩
  · show (Text.utf8 "").length ≤ 32
    decide
  · show 0 ∉ Text.utf8 ""
    decide
  · rw [List.length_replicate]
    exact h
  · exact List.length_replicate

/-- A frame that lacks its last byte needs more under the limit that it just keeps. -/
theorem exists_length_of_take?_none (h : limit ≤ 4294967295) :
    ∃ buffer : Bytes, buffer.length = 47 + limit ∧ take? limit buffer = .ok none := by
  obtain ⟨frame, wire, hencode, hpayload⟩ := exists_encode_of_size h
  have hlength : wire.length = 48 + limit := by
    rw [length_of_encode hencode, wireSize, hpayload]
    rfl
  have hwhole : Carries limit (wire.take (47 + limit) ++ wire.drop (47 + limit)) frame := by
    rw [List.take_append_drop]
    exact carries_of_encode hencode (Nat.le_of_eq hpayload)
  refine ⟨wire.take (47 + limit), List.length_take_of_le (by omega), hwhole.take?_of_cut ?_⟩
  rw [ne_eq, List.drop_eq_nil_iff]
  omega

/-- A header that declares too much is refused whatever follows it, and for that size if it is valid. -/
theorem exists_refusal_of_declaredSize {header : Bytes} (hlong : header.length = 48)
    (hlarge : limit < declaredSize header) :
    ∃ error, error.IsRefusal limit ∧
      (HasHeader header → error = .payloadTooLarge (declaredSize header) limit) ∧
      ∀ later, take? limit (header ++ later) = .error error := by
  have hrefused (error : Error) (htake : take? limit header = .error error) :
      error.IsRefusal limit ∧ ∀ later, take? limit (header ++ later) = .error error :=
    ⟨isDecoding_or_tooLarge_of_take? htake, take?_append_of_error htake⟩
  rcases take?_cases limit header with ⟨hshort, -⟩ | ⟨error, -, hparse, htake⟩ | ⟨parsed, hparse, hcases⟩
  · omega
  · obtain ⟨hrefusal, hlater⟩ := hrefused error htake
    exact ⟨error, hrefusal, fun hvalid => absurd hvalid (not_hasHeader_of_parseHeader hparse), hlater⟩
  · obtain ⟨-, hsize⟩ := hasHeader_of_parseHeader hparse
    rcases hcases with ⟨-, htake⟩ | ⟨hlimit, -⟩ | ⟨hlimit, -⟩
    · obtain ⟨hrefusal, hlater⟩ := hrefused _ htake
      exact ⟨_, hrefusal, fun _ => by rw [hsize], hlater⟩
    · omega
    · omega

namespace Reader

variable {source : List ReadEvent} {reader : Reader}

theorem length_delivered_readOnce (source : List ReadEvent) :
    (delivered [(readOnce source).1]).length ≤ 8192 := by
  cases hread : (readOnce source).1 with
  | error error => exact Nat.zero_le _
  | ok bytes =>
    rw [delivered, delivered, List.append_nil]
    exact length_readOnce hread

theorem turn_of_take?_none (h : take? reader.limit reader.buffer = .ok none) :
    reader.turn.2 = reader.afterRead := by
  rw [turn, h]
  dsimp only
  split <;> rfl

/-- A turn reads because more bytes are needed, or it only takes bytes off the buffer. -/
theorem turn_reads_or_takes (reader : Reader) :
    (take? reader.limit reader.buffer = .ok none ∧ reader.turn.2 = reader.afterRead) ∨
      ∃ left, left.length ≤ reader.buffer.length ∧ reader.turn.2 = { reader with buffer := left } := by
  rcases hturn : reader.turn with ⟨_ | answer, next⟩
  · obtain ⟨htake, -, rfl⟩ := turn_eq_none_iff.1 hturn
    exact .inl ⟨htake, rfl⟩
  · rcases turn_cases hturn with ⟨frame, left, htake, -, rfl⟩ | ⟨error, -, -, rfl⟩ | ⟨htake, -, -, rfl⟩
    · have hlength := length_of_take? htake
      exact .inr ⟨left, by omega, rfl⟩
    · exact .inr ⟨_, Nat.le_refl _, rfl⟩
    · exact .inl ⟨htake, rfl⟩

/-- A turn that asks the source for more has less than a header and an admissible payload buffered. -/
theorem length_of_reading_turn (h : reader.turn.2.reads ≠ reader.reads) :
    reader.buffer.length ≤ 47 + reader.limit := by
  rcases turn_reads_or_takes reader with ⟨htake, -⟩ | ⟨left, -, hnext⟩
  · exact length_of_take?_none htake
  · exact absurd (congrArg Reader.reads hnext) h

theorem length_turn_le (hlimit : reader.limit = limit) (h : reader.buffer.length ≤ 47 + limit + 8192) :
    reader.turn.2.buffer.length ≤ 47 + limit + 8192 := by
  subst hlimit
  rcases turn_reads_or_takes reader with ⟨htake, hnext⟩ | ⟨left, hleft, hnext⟩
  · have hasked := length_of_take?_none htake
    have hread := length_delivered_readOnce reader.source
    rw [hnext, afterRead_buffer, List.length_append]
    omega
  · rw [hnext]
    exact Nat.le_trans hleft h

theorem length_turns_le (limit : Nat) (source : List ReadEvent) (count : Nat) :
    (turns count (fresh limit source)).2.buffer.length ≤ 47 + limit + 8192 := by
  induction count with
  | zero => exact Nat.zero_le _
  | succ count ih =>
    rw [turns_succ]
    exact length_turn_le (accounts_turns limit source count).sameLimit ih

inductive Demand where
  | call
  | through (count : Nat)

def Demand.size : Demand → Nat
  | call => 1
  | through count => count

def asked : List Demand → Nat
  | [] => 0
  | demand :: demands => demand.size + asked demands

def Demand.serve : Demand → Reader → List (Except Error Frame) × Reader
  | call, reader => ([reader.readFrame.1], reader.readFrame.2)
  | through count, reader => ((reader.frames count).1, (reader.frames count).2.2)

def serve : List Demand → Reader → List (Except Error Frame) × Reader
  | [], reader => ([], reader)
  | demand :: demands, reader =>
    let later := serve demands (demand.serve reader).2
    ((demand.serve reader).1 ++ later.1, later.2)

theorem exists_calls_frames (count : Nat) (reader : Reader) :
    ∃ made, (calls made reader).2 = (reader.frames count).2.2 := by
  induction count generalizing reader with
  | zero => exact ⟨0, rfl⟩
  | succ count ih =>
    obtain ⟨made, hmade⟩ := ih reader.readFrame.2
    rw [frames, nextFrame_eq]
    split
    · rename_i next hended
      exact ⟨1, (Prod.mk.inj hended).2⟩
    · rename_i item next hitem
      obtain ⟨-, rfl⟩ := Prod.mk.inj hitem
      exact ⟨made + 1, hmade⟩

theorem Demand.exists_calls_serve (demand : Demand) (reader : Reader) :
    ∃ made, (calls made reader).2 = (demand.serve reader).2 := by
  cases demand with
  | call => exact ⟨1, rfl⟩
  | through count => exact exists_calls_frames count reader

theorem exists_calls_serve (demands : List Demand) (reader : Reader) :
    ∃ made, (calls made reader).2 = (serve demands reader).2 := by
  induction demands generalizing reader with
  | nil => exact ⟨0, rfl⟩
  | cons demand demands ih =>
    obtain ⟨first, hfirst⟩ := demand.exists_calls_serve reader
    obtain ⟨later, hlater⟩ := ih (demand.serve reader).2
    refine ⟨first + later, ?_⟩
    rw [calls_add, hfirst, hlater]
    rfl

/-- Wherever serving demands leaves a reader is a point between turns. -/
theorem exists_turns_serve (demands : List Demand) (reader : Reader) :
    ∃ count, (turns count reader).2 = (serve demands reader).2 := by
  obtain ⟨made, hmade⟩ := exists_calls_serve demands reader
  obtain ⟨count, hcount⟩ := exists_turns_calls made reader
  exact ⟨count, by rw [hcount, hmade]⟩

theorem frames_eq_calls {count : Nat}
    (h : .error .connectionClosed ∉ (calls count reader).1) :
    reader.frames count = ((calls count reader).1, false, (calls count reader).2) := by
  induction count generalizing reader with
  | zero => rfl
  | succ count ih =>
    rw [calls, List.mem_cons, not_or] at h
    have hnext : reader.nextFrame = (some reader.readFrame.1, reader.readFrame.2) := by
      rw [nextFrame_eq, if_neg (fun hended => h.1 hended.1.symm)]
    rw [frames, hnext]
    simp only [ih h.2, calls]

theorem Demand.serve_eq_calls (demand : Demand)
    (h : .error .connectionClosed ∉ (calls demand.size reader).1) :
    demand.serve reader = calls demand.size reader := by
  cases demand with
  | call => rfl
  | through count =>
    have hframes : reader.frames count = _ := frames_eq_calls h
    rw [Demand.serve, hframes]
    rfl

/-- Where no call meets the end of the source, demands only differ in the number of calls that they make. -/
theorem serve_eq_calls (demands : List Demand)
    (h : .error .connectionClosed ∉ (calls (asked demands) reader).1) :
    serve demands reader = calls (asked demands) reader := by
  induction demands generalizing reader with
  | nil => rfl
  | cons demand demands ih =>
    rw [asked, calls_add] at h ⊢
    rw [List.mem_append, not_or] at h
    rw [serve, demand.serve_eq_calls h.1]
    simp only [ih h.2]

/-- The frames in front of a fault in the buffer are answered, then the fault for good, and only the buffer
changes. -/
theorem calls_of_carried {wires : List Bytes} {frames : List Frame} {error : Error}
    (h : List.Forall₂ (Carries limit) wires frames) (hlimit : reader.limit = limit)
    (hbuffer : reader.buffer = wires.flatten ++ rest) (hrest : take? limit rest = .error error)
    (count : Nat) :
    calls count reader = ((frames.take count).map Except.ok
        ++ List.replicate (count - frames.length) (.error error),
      { reader with buffer := (wires.drop count).flatten ++ rest }) := by
  induction h generalizing reader count with
  | nil =>
    have hsame : reader.buffer = rest := hbuffer
    have htake : take? reader.limit reader.buffer = .error error := by
      rw [hlimit, hsame]
      exact hrest
    rw [calls_of_take?_error htake]
    simp [← hsame]
  | @cons wire frame wires frames hcarries _ ih =>
    cases count with
    | zero =>
      rw [List.drop_zero, ← hbuffer]
      simp [calls]
    | succ count =>
      have htake : take? reader.limit reader.buffer
          = .ok (some (frame, wires.flatten ++ rest)) := by
        rw [hlimit, hbuffer, List.flatten_cons, List.append_assoc]
        exact hcarries.take?_append _
      have hlater := @ih { reader with buffer := wires.flatten ++ rest } hlimit rfl count
      rw [calls, readFrame_of_take?_some htake]
      simp [hlater]

/-- What is certain of a reader at every point of its work, in the middle of calls and between them. -/
structure Contained (limit : Nat) (reader : Reader) : Prop where
  held : reader.buffer.length ≤ 47 + limit + 8192
  /-- Where the source is asked for more, less than a header and an admissible payload is buffered. -/
  asking : reader.turn.2.reads ≠ reader.reads → reader.buffer.length ≤ 47 + limit
  /-- A header that declares more than the limit is refused once its bytes are buffered. The frames in front
  of it are answered, all else is answered with the fault, and only the buffer changes. -/
  refused : ∀ wires frames header later, List.Forall₂ (Carries limit) wires frames →
    reader.buffer = wires.flatten ++ (header ++ later) → header.length = 48 →
    limit < declaredSize header →
    ∃ error, error.IsRefusal limit ∧
      (HasHeader header → error = .payloadTooLarge (declaredSize header) limit) ∧
      ∀ demands, serve demands reader =
        ((frames.take (asked demands)).map Except.ok
            ++ List.replicate (asked demands - frames.length) (.error error),
          { reader with buffer := (wires.drop (asked demands)).flatten ++ (header ++ later) })

theorem contained_of_length (hlimit : reader.limit = limit)
    (hheld : reader.buffer.length ≤ 47 + limit + 8192) : Contained limit reader := by
  refine ⟨hheld, fun hreads => hlimit ▸ length_of_reading_turn hreads, ?_⟩
  intro wires frames header later hwires hbuffer hlong hlarge
  obtain ⟨error, hrefusal, hvalid, htake⟩ := exists_refusal_of_declaredSize hlong hlarge
  refine ⟨error, hrefusal, hvalid, fun demands => ?_⟩
  have hcalls := calls_of_carried hwires hlimit hbuffer (htake later) (asked demands)
  have hopen : .error .connectionClosed ∉ (calls (asked demands) reader).1 := by
    intro hclosed
    rw [hcalls] at hclosed
    rcases List.mem_append.1 hclosed with hframe | hfault
    · obtain ⟨_, -, hanswer⟩ := List.mem_map.1 hframe
      cases hanswer
    · exact stopped_ne_of_take? (htake later) (.ok [])
        (Except.error.inj (List.eq_of_mem_replicate hfault)).symm
  rw [serve_eq_calls demands hopen]
  exact hcalls

/-- A peer cannot make a reader buffer without bound. Whatever a source does and however frames are asked
for, the buffer never holds more than 47 bytes, the limit and one read, and without that read where the
source is asked for more. A header that declares a payload over the limit is refused as soon as it is
buffered, and nothing is read from then on. A call is made of turns (`readFrame_eq_turn`), so the points
between turns are all there are: inside calls, between them and at the end of every sequence of demands. -/
theorem buffer_stays_bounded (limit : Nat) (source : List ReadEvent) :
    (∀ count, Contained limit (turns count (fresh limit source)).2) ∧
      ∀ demands, ∃ count,
        (turns count (fresh limit source)).2 = (serve demands (fresh limit source)).2 := by
  refine ⟨fun count => ?_, fun demands => exists_turns_serve demands _⟩
  exact contained_of_length (accounts_turns limit source count).sameLimit
    (length_turns_le limit source count)

/-- A header that declares three bytes where two are allowed, read together with the frame in front of it. -/
theorem oversized_header_behind_a_frame :
    let small : Frame := ⟨"a", 0, .log, [7, 8]⟩
    let large : Frame := ⟨"", 0, .log, [1, 2, 3]⟩
    let source : List ReadEvent :=
      [.data (small.header ++ small.payload ++ large.header), .data large.payload]
    let reader := (turns 1 (fresh 2 source)).2
    large.header.length = 48 ∧ 2 < declaredSize large.header ∧
      reader.reads = 1 ∧ reader.source = [.data large.payload] ∧
      serve [.call, .through 2] reader =
        ([.ok small, .error (.payloadTooLarge 3 2), .error (.payloadTooLarge 3 2)],
          { reader with buffer := large.header }) := by
  intro small large source reader
  have hsmall : Carries 2 (small.header ++ small.payload) small := carries_of_encode rfl (by decide)
  have hbuffer : reader.buffer = [small.header ++ small.payload].flatten ++ (large.header ++ []) := rfl
  have hlarge : Encodable large := ⟨by decide, by decide, by decide⟩
  have hheader : HasHeader large.header := by
    simpa using (hasHeader_of_parseHeader (hlarge.parseHeader [])).1
  obtain ⟨error, -, hsize, hserve⟩ := ((buffer_stays_bounded 2 source).1 1).refused _ _ _ _
    (.cons hsmall .nil) hbuffer (by decide) (by decide)
  have herror : error = .payloadTooLarge 3 2 :=
    (hsize hheader).trans (congrArg (Error.payloadTooLarge · 2) (by decide))
  have hserved := hserve [.call, .through 2]
  rw [herror] at hserved
  exact ⟨by decide, by decide, rfl, rfl, hserved⟩

theorem readOnce_data_of_le {bytes : Bytes} (h : bytes.length ≤ 8192) (source : List ReadEvent) :
    readOnce (.data bytes :: source) = (.ok bytes, source) := by
  have hdrop : bytes.drop readSize = [] := List.drop_eq_nil_of_le h
  rw [readOnce, hdrop]

theorem readOnce_data_of_lt {bytes : Bytes} (h : 8192 < bytes.length) (source : List ReadEvent) :
    readOnce (.data bytes :: source) =
      (.ok (bytes.take 8192), .data (bytes.drop 8192) :: source) := by
  rw [readOnce]
  split
  · rename_i hdrop
    have hlength : bytes.length ≤ 8192 := List.drop_eq_nil_iff.1 hdrop
    omega
  · rfl

theorem exists_turns_data (reader : Reader) (bytes : Bytes)
    (hsource : reader.source = .data bytes :: source) (hne : bytes ≠ [])
    (hneed : take? reader.limit (reader.buffer ++ bytes) = .ok none) :
    ∃ count, (turns count reader).2 =
      { reader with
        source := source
        buffer := reader.buffer ++ bytes
        reads := reader.reads + count } := by
  -- a read that leaves some of the data first in line takes 8192 bytes off them
  induction hlength : bytes.length using Nat.strongRecOn generalizing reader bytes with
  | _ length ih =>
    have hturn : reader.turn.2 = reader.afterRead :=
      turn_of_take?_none (take?_none_of_append hneed)
    rcases Nat.lt_or_ge 8192 bytes.length with hlong | hshort
    · have hcut : bytes.take 8192 ++ bytes.drop 8192 = bytes := List.take_append_drop _ _
      have hnext : reader.turn.2 =
          { reader with
            source := .data (bytes.drop 8192) :: source
            buffer := reader.buffer ++ bytes.take 8192
            reads := reader.reads + 1 } := by
        rw [hturn, afterRead, hsource, readOnce_data_of_lt hlong]
        simp [delivered]
      have hshorter : (bytes.drop 8192).length < length := by
        rw [List.length_drop]
        omega
      have hleft : bytes.drop 8192 ≠ [] := by
        rw [ne_eq, List.drop_eq_nil_iff]
        omega
      obtain ⟨count, hcount⟩ := ih _ hshorter reader.turn.2 (bytes.drop 8192) (by rw [hnext]) hleft
        (by rw [hnext, List.append_assoc, hcut]; exact hneed) rfl
      refine ⟨count + 1, ?_⟩
      rw [turns, hcount, hnext]
      simp only [List.append_assoc, hcut, Nat.add_assoc, Nat.add_comm 1]
    · refine ⟨1, ?_⟩
      rw [turns, hturn, afterRead, hsource, readOnce_data_of_le hshort]
      simp [turns, delivered]

/-- No smaller bounds hold under a limit that a header can declare. -/
theorem bounds_are_met (h : limit ≤ 4294967295) :
    ∃ source count,
      let reader := (turns count (fresh limit source)).2
      reader.buffer.length = 47 + limit ∧ reader.turn.2.reads = reader.reads + 1 ∧
        reader.turn.2.buffer.length = 47 + limit + 8192 := by
  obtain ⟨part, hpart, hneed⟩ := exists_length_of_take?_none h
  obtain ⟨more, hmore⟩ : ∃ more : Bytes, more.length = 8192 :=
    ⟨List.replicate 8192 0, List.length_replicate⟩
  have hne : part ≠ [] := List.ne_nil_of_length_pos (by omega)
  obtain ⟨count, hcount⟩ :=
    exists_turns_data (fresh limit [.data part, .data more]) part rfl hne hneed
  refine ⟨[.data part, .data more], count, ?_⟩
  rw [hcount]
  dsimp only
  rw [turn_of_take?_none hneed, afterRead_reads, afterRead_buffer,
    readOnce_data_of_le (Nat.le_of_eq hmore)]
  refine ⟨hpart, rfl, ?_⟩
  rw [List.length_append]
  simp [fresh, delivered, hpart, hmore]

end Reader

end Courier.Frame
