import Courier.Proofs.Frame.Chunks
import Courier.Proofs.Frame.Turns

/-! # Readers keep account of every byte

After any number of turns the bytes read from the source are the wire bytes of the frames answered and
then the buffer (`Accounts`). What a single call reads, and how the last read decides its answer, is a
`Call`.
-/

namespace Courier.Frame.Reader

variable {limit : Nat} {source : List ReadEvent} {answers : List (Except Error Frame)} {reader : Reader}

def framesOf (answers : List (Except Error Frame)) : List Frame :=
  answers.filterMap Except.toOption

theorem framesOf_append (earlier later : List (Except Error Frame)) :
    framesOf (earlier ++ later) = framesOf earlier ++ framesOf later :=
  List.filterMap_append

/-- The reads made are the first of the source, and all they delivered is in frames or in the buffer. -/
structure Accounts (limit : Nat) (source : List ReadEvent) (answers : List (Except Error Frame))
    (reader : Reader) : Prop where
  sameLimit : reader.limit = limit
  consumed : (readMany reader.reads source).2 = reader.source
  conserved : ∃ wires, List.Forall₂ (Carries limit) wires (framesOf answers) ∧
    delivered (readMany reader.reads source).1 = wires.flatten ++ reader.buffer
  uninterrupted : ∀ error, .error (.io error) ∈ answers → error.isInterrupted = false

theorem accounts_fresh (limit : Nat) (source : List ReadEvent) :
    Accounts limit source [] (fresh limit source) :=
  ⟨rfl, rfl, ⟨[], .nil, rfl⟩, nofun⟩

theorem Accounts.afterRead (h : Accounts limit source answers reader) :
    Accounts limit source answers reader.afterRead := by
  obtain ⟨wires, hwires, hbytes⟩ := h.conserved
  have hreads : readMany reader.afterRead.reads source =
      ((readMany reader.reads source).1 ++ [(readOnce reader.source).1],
        (readOnce reader.source).2) := by
    rw [← h.consumed]
    exact readMany_succ reader.reads source
  refine ⟨h.sameLimit, ?_, ⟨wires, hwires, ?_⟩, h.uninterrupted⟩
  · rw [hreads]
    rfl
  · rw [hreads, delivered_append, hbytes, List.append_assoc]
    rfl

theorem Accounts.answerError (h : Accounts limit source answers reader) {error : Error}
    (herror : ∀ io, error = .io io → io.isInterrupted = false) :
    Accounts limit source (answers ++ [.error error]) reader := by
  obtain ⟨wires, hwires, hbytes⟩ := h.conserved
  refine ⟨h.sameLimit, h.consumed, ⟨wires, ?_, hbytes⟩, ?_⟩
  · rw [framesOf_append]
    exact (List.append_nil (framesOf answers)).symm ▸ hwires
  · intro io hio
    rcases List.mem_append.1 hio with hearlier | hlast
    · exact h.uninterrupted io hearlier
    · exact herror io (Except.error.inj (List.mem_singleton.1 hlast)).symm

theorem Accounts.answerFrame (h : Accounts limit source answers reader) {frame : Frame} {rest : Bytes}
    (htake : take? limit reader.buffer = .ok (some (frame, rest))) :
    Accounts limit source (answers ++ [.ok frame]) { reader with buffer := rest } := by
  obtain ⟨wires, hwires, hbytes⟩ := h.conserved
  obtain ⟨wire, hwire, hbuffer⟩ := exists_carries_of_take? htake
  refine ⟨h.sameLimit, h.consumed, ⟨wires ++ [wire], ?_, ?_⟩, ?_⟩
  · rw [framesOf_append]
    exact List.rel_append hwires (.cons hwire .nil)
  · rw [hbytes, hbuffer, List.flatten_append, List.flatten_singleton, List.append_assoc]
  · intro io hio
    rcases List.mem_append.1 hio with hearlier | hlast
    · exact h.uninterrupted io hearlier
    · cases List.mem_singleton.1 hlast

/-- What is wrong with buffered bytes is never mistaken for what a read answered. -/
theorem stopped_ne {error : Error}
    (h : error.isDecoding = true ∨ ∃ size max, error = .payloadTooLarge size max)
    (read : Except IoError Bytes) : error ≠ stopped read := by
  rintro rfl
  rcases h with hdecoding | ⟨size, max, hsize⟩
  · cases read <;> cases hdecoding
  · cases read <;> cases hsize

theorem stopped_ne_of_take? {buffer : Bytes} {error : Error} (h : take? limit buffer = .error error)
    (read : Except IoError Bytes) : error ≠ stopped read := by
  apply stopped_ne
  rcases isDecoding_or_tooLarge_of_take? h with hdecoding | ⟨size, hsize⟩
  · exact .inl hdecoding
  · exact .inr ⟨size, limit, hsize⟩

theorem stopped_injective {left right : Except IoError Bytes} (hleft : goesOn left = false)
    (hright : goesOn right = false) (h : stopped left = stopped right) : left = right := by
  cases left with
  | ok leftBytes =>
    cases right with
    | ok rightBytes =>
      have hleft : leftBytes = [] := by simpa [goesOn] using hleft
      have hright : rightBytes = [] := by simpa [goesOn] using hright
      rw [hleft, hright]
    | error error => cases h
  | error error =>
    cases right with
    | ok bytes => cases h
    | error other =>
      cases h
      rfl

theorem isInterrupted_of_stopped {read : Except IoError Bytes} (h : goesOn read = false) {io : IoError}
    (hio : stopped read = .io io) : io.isInterrupted = false := by
  cases read with
  | ok bytes => cases hio
  | error error =>
    cases hio
    exact h

theorem Accounts.turn (h : Accounts limit source answers reader) :
    Accounts limit source (answers ++ reader.turn.1.toList) reader.turn.2 := by
  rcases hturn : reader.turn with ⟨_ | answer, next⟩
  · obtain ⟨-, -, rfl⟩ := turn_eq_none_iff.1 hturn
    simpa using h.afterRead
  · rcases turn_cases hturn with ⟨frame, rest, htake, rfl, rfl⟩ | ⟨error, htake, rfl, rfl⟩ |
      ⟨-, hstop, rfl, rfl⟩
    · exact h.answerFrame (h.sameLimit ▸ htake)
    · exact h.answerError fun io hio => absurd hio (stopped_ne_of_take? htake (.error io))
    · exact h.afterRead.answerError fun io hio => isInterrupted_of_stopped hstop hio

theorem accounts_turns (limit : Nat) (source : List ReadEvent) (count : Nat) :
    Accounts limit source (turns count (fresh limit source)).1 (turns count (fresh limit source)).2 := by
  induction count with
  | zero => exact accounts_fresh limit source
  | succ count ih =>
    rw [turns_succ]
    exact ih.turn

/-- The frames answered are the first that are found in all the bytes delivered. -/
theorem Accounts.drained (h : Accounts limit source answers reader) :
    drain limit (delivered (readMany reader.reads source).1) =
      (drain limit reader.buffer).after (framesOf answers) := by
  obtain ⟨wires, hwires, hbytes⟩ := h.conserved
  rw [hbytes, drain_carried hwires]

theorem Accounts.undelivered (h : Accounts limit source answers reader) :
    delivered (readMany reader.reads source).1 ++ content reader.source = content source := by
  rw [← h.consumed, content_readMany]

/-- How a call ends with `bytes` buffered: at the frame or the fault in them, or at a read. -/
inductive Ending (limit : Nat) (bytes : Bytes) :
    Option (Except IoError Bytes) → Except Error Frame → Bytes → Prop
  | found {frame : Frame} {rest : Bytes} (htake : take? limit bytes = .ok (some (frame, rest))) :
      Ending limit bytes none (.ok frame) rest
  | faulty {error : Error} (htake : take? limit bytes = .error error) :
      Ending limit bytes none (.error error) bytes
  | stopped {read : Except IoError Bytes} (hread : goesOn read = false) :
      Ending limit bytes (some read) (.error (stopped read)) bytes

/-- What a call did: some reads after which it went on, and perhaps one that stopped it. -/
structure Call (reader : Reader) (quiet : List (Except IoError Bytes))
    (stop : Option (Except IoError Bytes)) (answer : Except Error Frame) (next : Reader) : Prop where
  limit : next.limit = reader.limit
  reads : next.reads = reader.reads + (quiet ++ stop.toList).length
  source : readMany (quiet ++ stop.toList).length reader.source = (quiet ++ stop.toList, next.source)
  goes : ∀ read ∈ quiet, goesOn read = true
  ending : Ending reader.limit (reader.buffer ++ delivered (quiet ++ stop.toList)) stop answer next.buffer

variable {next : Reader} {answer : Except Error Frame} {quiet : List (Except IoError Bytes)}
  {stop : Option (Except IoError Bytes)}

theorem call_of_turn (h : reader.turn = (some answer, next)) :
    ∃ stop, Call reader [] stop answer next := by
  rcases turn_cases h with ⟨frame, rest, htake, rfl, rfl⟩ | ⟨error, htake, rfl, rfl⟩ |
    ⟨-, hstop, rfl, rfl⟩
  · refine ⟨none, rfl, rfl, rfl, nofun, .found ?_⟩
    rw [← htake]
    exact congrArg _ (List.append_nil _)
  · refine ⟨none, rfl, rfl, rfl, nofun, ?_⟩
    have hbuffer : next.buffer ++ delivered ([] ++ (none : Option (Except IoError Bytes)).toList)
        = next.buffer := List.append_nil _
    rw [hbuffer]
    exact .faulty htake
  · exact ⟨some (readOnce reader.source).1, rfl, rfl, rfl, nofun, .stopped hstop⟩

theorem Call.cons (hgoes : goesOn (readOnce reader.source).1 = true)
    (h : Call reader.afterRead quiet stop answer next) :
    Call reader ((readOnce reader.source).1 :: quiet) stop answer next := by
  refine ⟨h.limit, ?_, ?_, ?_, ?_⟩
  · rw [h.reads, afterRead_reads, List.cons_append, List.length_cons]
    omega
  · rw [List.cons_append, List.length_cons, readMany, ← afterRead_source, h.source]
  · intro read hread
    rcases List.mem_cons.1 hread with rfl | hlater
    · exact hgoes
    · exact h.goes read hlater
  · have hbytes : reader.buffer ++ delivered ((readOnce reader.source).1 :: quiet ++ stop.toList) =
        reader.afterRead.buffer ++ delivered (quiet ++ stop.toList) := by
      rw [afterRead_buffer, List.append_assoc, ← delivered_append]
      rfl
    rw [hbytes]
    exact h.ending

theorem exists_call (reader : Reader) :
    ∃ quiet stop, Call reader quiet stop reader.readFrame.1 reader.readFrame.2 := by
  refine readFrame_induct (motive := fun reader answer next =>
    ∃ quiet stop, Call reader quiet stop answer next) ?_ ?_ reader
  · intro reader answer next hturn
    exact ⟨[], call_of_turn hturn⟩
  · rintro reader next answer last hturn ⟨quiet, stop, hcall⟩
    obtain ⟨-, hgoes, rfl⟩ := turn_eq_none_iff.1 hturn
    exact ⟨_, stop, hcall.cons hgoes⟩

theorem Ending.stopped_iff {bytes after : Bytes} (h : Ending limit bytes stop answer after)
    {read : Except IoError Bytes} (hread : goesOn read = false) :
    answer = .error (Reader.stopped read) ↔ stop = some read := by
  cases h with
  | found htake => exact ⟨nofun, nofun⟩
  | faulty htake =>
    refine ⟨?_, nofun⟩
    intro hanswer
    exact absurd (Except.error.inj hanswer) (stopped_ne_of_take? htake read)
  | stopped hlast =>
    constructor
    · intro hanswer
      rw [stopped_injective hlast hread (Except.error.inj hanswer)]
    · intro hstop
      rw [Option.some.inj hstop]

theorem Ending.uninterrupted {bytes after : Bytes} (h : Ending limit bytes stop answer after)
    {io : IoError} (hio : answer = .error (.io io)) : io.isInterrupted = false := by
  cases h with
  | found htake => cases hio
  | faulty htake => exact absurd (Except.error.inj hio) (stopped_ne_of_take? htake (.error io))
  | stopped hread => exact isInterrupted_of_stopped hread (Except.error.inj hio)

theorem Ending.buffer_of_error {bytes after : Bytes} {error : Error}
    (h : Ending limit bytes stop (.error error) after) : after = bytes := by
  cases h <;> rfl

theorem Ending.take?_of_refused {bytes after : Bytes} {error : Error}
    (h : Ending limit bytes stop (.error error) after)
    (hrefused : error.isDecoding = true ∨ ∃ size max, error = .payloadTooLarge size max) :
    take? limit after = .error error := by
  cases h with
  | faulty htake => exact htake
  | stopped hread => exact absurd rfl (stopped_ne hrefused _)

/-- A read that lets no call go on is among the reads of a call exactly when it made the answer. -/
theorem Call.stopped_iff (h : Call reader quiet stop answer next) {read : Except IoError Bytes}
    (hread : goesOn read = false) :
    answer = .error (stopped read) ↔ read ∈ quiet ++ stop.toList := by
  rw [h.ending.stopped_iff hread, List.mem_append, Option.mem_toList]
  constructor
  · exact .inr
  · rintro (hquiet | hstop)
    · rw [h.goes read hquiet] at hread
      cases hread
    · exact hstop

def callReads (reader : Reader) : List (Except IoError Bytes) :=
  (readMany (reader.readFrame.2.reads - reader.reads) reader.source).1

theorem Call.goes_of_mem_dropLast (h : Call reader quiet stop answer next)
    {read : Except IoError Bytes} (hread : read ∈ (quiet ++ stop.toList).dropLast) :
    goesOn read = true := by
  apply h.goes
  cases stop with
  | none =>
    rw [Option.toList_none, List.append_nil] at hread
    exact List.dropLast_subset quiet hread
  | some last =>
    rw [Option.toList_some, List.dropLast_concat] at hread
    exact hread

theorem Call.readMany_eq (h : Call reader quiet stop reader.readFrame.1 reader.readFrame.2) :
    readMany (reader.readFrame.2.reads - reader.reads) reader.source =
      (quiet ++ stop.toList, reader.readFrame.2.source) := by
  rw [h.reads, Nat.add_sub_cancel_left, h.source]

theorem Call.callReads_eq (h : Call reader quiet stop reader.readFrame.1 reader.readFrame.2) :
    reader.callReads = quiet ++ stop.toList := by
  rw [callReads, h.readMany_eq]

theorem readFrame_of_turn (h : reader.turn = (some answer, next)) : reader.readFrame = (answer, next) := by
  rw [readFrame_eq_turn, h]

theorem readFrame_of_take?_some {frame : Frame} {rest : Bytes}
    (h : take? reader.limit reader.buffer = .ok (some (frame, rest))) :
    reader.readFrame = (.ok frame, { reader with buffer := rest }) := by
  apply readFrame_of_turn
  rw [turn, h]

theorem readFrame_of_take?_error {error : Error} (h : take? reader.limit reader.buffer = .error error) :
    reader.readFrame = (.error error, reader) := by
  apply readFrame_of_turn
  rw [turn, h]

theorem calls_of_take?_error {error : Error} (h : take? reader.limit reader.buffer = .error error)
    (count : Nat) : calls count reader = (List.replicate count (.error error), reader) := by
  induction count with
  | zero => rfl
  | succ count ih =>
    rw [calls, readFrame_of_take?_error h, ih]
    rfl

theorem nextFrame_eq (reader : Reader) :
    reader.nextFrame =
      (if reader.readFrame.1 = .error .connectionClosed ∧ reader.readFrame.2.buffer = [] then none
        else some reader.readFrame.1, reader.readFrame.2) := by
  rw [nextFrame]
  split
  · rename_i next hcall
    rw [hcall]
    cases hbuffer : next.buffer <;> simp
  · rename_i answer next hopen hcall
    rw [hcall, if_neg (fun h => hopen h.1)]

theorem nextFrame_eq_none_iff :
    reader.nextFrame.1 = none ↔
      reader.readFrame.1 = .error .connectionClosed ∧ reader.readFrame.2.buffer = [] := by
  rw [nextFrame_eq]
  split
  · rename_i hended
    exact ⟨fun _ => hended, fun _ => rfl⟩
  · rename_i hopen
    exact ⟨nofun, fun hended => absurd hended hopen⟩

theorem nextFrame_eq_closed_iff :
    reader.nextFrame.1 = some (.error .connectionClosed) ↔
      reader.readFrame.1 = .error .connectionClosed ∧ reader.readFrame.2.buffer ≠ [] := by
  rw [nextFrame_eq]
  split
  · rename_i hended
    exact ⟨nofun, fun hcut => absurd hended.2 hcut.2⟩
  · rename_i hopen
    constructor
    · intro hclosed
      have hanswer := Option.some.inj hclosed
      exact ⟨hanswer, fun hbuffer => hopen ⟨hanswer, hbuffer⟩⟩
    · rintro ⟨hanswer, -⟩
      exact congrArg some hanswer

/-- What can be relied on when a reader is called, whatever was read before. -/
structure Reliable (reader : Reader) : Prop where
  /-- A call goes on after a read only if it delivered bytes or was interrupted. -/
  goes : ∀ read ∈ reader.callReads.dropLast, goesOn read = true
  source : (readMany (reader.readFrame.2.reads - reader.reads) reader.source).2 =
    reader.readFrame.2.source
  /-- A failure of the source is answered by the call that meets it. -/
  failed : ∀ error, reader.readFrame.1 = .error (.io error) ↔
    .error error ∈ reader.callReads ∧ error.isInterrupted = false
  /-- A call that fails keeps every byte. -/
  intact : ∀ error, reader.readFrame.1 = .error error →
    reader.readFrame.2.buffer = reader.buffer ++ delivered reader.callReads
  /-- A frame that is buffered is answered without reading. -/
  ready : ∀ frame rest, take? reader.limit reader.buffer = .ok (some (frame, rest)) →
    reader.readFrame = (.ok frame, { reader with buffer := rest })
  /-- A header that is malformed or announces too much is the answer of all later calls, which do not
  change the reader. -/
  refused : ∀ error, reader.readFrame.1 = .error error →
    (error.isDecoding = true ∨ ∃ size max, error = .payloadTooLarge size max) →
    ∀ count, calls count reader.readFrame.2 =
      (List.replicate count (.error error), reader.readFrame.2)
  /-- Going through the frames ends where the source ends between frames. -/
  ended : reader.nextFrame.1 = none ↔
    .ok [] ∈ reader.callReads ∧ reader.readFrame.2.buffer = []
  /-- The end of the source inside a frame is an error. -/
  cut : reader.nextFrame.1 = some (.error .connectionClosed) ↔
    .ok [] ∈ reader.callReads ∧ reader.readFrame.2.buffer ≠ []
  /-- Going through the frames is calling `readFrame`. -/
  same : reader.nextFrame.2 = reader.readFrame.2

theorem reliable (reader : Reader) : Reliable reader := by
  obtain ⟨quiet, stop, hcall⟩ := exists_call reader
  have hreads := hcall.callReads_eq
  have hclosed : reader.readFrame.1 = .error .connectionClosed ↔ .ok [] ∈ reader.callReads := by
    rw [hreads]
    exact hcall.stopped_iff (show goesOn (.ok []) = false from rfl)
  refine ⟨?_, ?_, ?_, ?_, ?_, ?_, ?_, ?_, ?_⟩
  · intro read hread
    rw [hreads] at hread
    exact hcall.goes_of_mem_dropLast hread
  · rw [hcall.readMany_eq]
  · intro error
    rw [hreads]
    constructor
    · intro hanswer
      have hstop : goesOn (.error error) = false := hcall.ending.uninterrupted hanswer
      exact ⟨(hcall.stopped_iff hstop).1 hanswer, hstop⟩
    · rintro ⟨hmem, huninterrupted⟩
      have hstop : goesOn (.error error) = false := huninterrupted
      exact (hcall.stopped_iff hstop).2 hmem
  · intro error herror
    have hending := hcall.ending
    rw [herror] at hending
    rw [hreads, hending.buffer_of_error]
  · intro frame rest htake
    exact readFrame_of_take?_some htake
  · intro error herror hrefused
    have hending := hcall.ending
    rw [herror] at hending
    apply calls_of_take?_error
    rw [hcall.limit]
    exact hending.take?_of_refused hrefused
  · rw [nextFrame_eq_none_iff, hclosed]
  · rw [nextFrame_eq_closed_iff, hclosed]
  · rw [nextFrame_eq]

/-- A reader loses, repeats and reorders no byte, whatever its source does. At every point of its work, in
the middle of calls as well as between them, the bytes delivered are those of the frames answered and of
the buffer. The frames are those that draining the delivered bytes finds, interruptions are never
answered, and every call is `Reliable`. -/
theorem every_byte_accounted_for (limit : Nat) (source : List ReadEvent) :
    (∀ count,
      let answers := (turns count (fresh limit source)).1
      let reader := (turns count (fresh limit source)).2
      let reads := (readMany reader.reads source).1
      Accounts limit source answers reader ∧
        drain limit (delivered reads) = (drain limit reader.buffer).after (framesOf answers) ∧
        delivered reads ++ content reader.source = content source ∧
        ∀ bytes, .ok bytes ∈ reads → bytes.length ≤ 8192) ∧
      (∀ callCount, ∃ count,
        turns count (fresh limit source) = calls callCount (fresh limit source)) ∧
      ∀ reader : Reader, Reliable reader := by
  refine ⟨?_, fun callCount => exists_turns_calls callCount _, reliable⟩
  intro count
  have haccounts := accounts_turns limit source count
  exact ⟨haccounts, haccounts.drained, haccounts.undelivered, fun _ => length_readMany⟩

end Courier.Frame.Reader
