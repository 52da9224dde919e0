import Courier.Proofs.Frame.Agreement
import Courier.Proofs.Frame.Sending

/-! # One limit at both ends

A codec and a writer hold the same limit against a frame, and before anything else. So they admit the same
frames and put the same bytes on a stream, and an end that decodes within this limit gets every frame that
was admitted.
-/

namespace Courier.Frame

variable {limit : Nat} {frame : Frame} {wire buffer : Bytes}

structure Admissible (limit : Nat) (frame : Frame) : Prop extends Encodable frame where
  within : frame.payload.length ≤ limit

instance (limit : Nat) (frame : Frame) : Decidable (Admissible limit frame) :=
  decidable_of_iff ((Text.utf8 frame.provider).length ≤ 32 ∧ 0 ∉ Text.utf8 frame.provider ∧
      frame.payload.length ≤ 4294967295 ∧ frame.payload.length ≤ limit)
    ⟨fun h => ⟨⟨h.1, h.2.1, h.2.2.1⟩, h.2.2.2⟩,
      fun h => ⟨h.short, h.noNul, h.countable, h.within⟩⟩

theorem isWire_iff :
    IsWire limit wire frame ↔ Admissible limit frame ∧ wire = frame.header ++ frame.payload := by
  constructor
  · intro h
    obtain ⟨hframe, hwire⟩ := encode_eq_ok_iff.1 h.encoded
    exact ⟨⟨hframe, h.within⟩, hwire⟩
  · rintro ⟨hframe, hwire⟩
    exact ⟨encode_eq_ok_iff.2 ⟨hframe.toEncodable, hwire⟩, hframe.within⟩

theorem admitted_frame_eq_ok_iff :
    (Writer.Request.frame frame).admitted limit = .ok wire ↔ IsWire limit wire frame := by
  rw [Writer.Request.admitted_eq_ok_iff]
  exact ⟨fun h => ⟨h.2, h.1⟩, fun h => ⟨h.within, h.encoded⟩⟩

structure Answered (limit : Nat) (frame : Frame) (answer : Except Error Unit) : Prop where
  ok : answer = .ok () ↔ Admissible limit frame
  /-- A payload over the limit is the fault even where the provider id is one as well. -/
  large : limit < frame.payload.length → answer = .error (.payloadTooLarge frame.payload.length limit)

theorem admitted_frame_cases (limit : Nat) (frame : Frame) :
    (∃ wire, (Writer.Request.frame frame).admitted limit = .ok wire ∧ IsWire limit wire frame) ∨
      ∃ error, (Writer.Request.frame frame).admitted limit = .error error ∧
        ¬ Admissible limit frame ∧ Answered limit frame (.error error) := by
  cases hadmitted : (Writer.Request.frame frame).admitted limit with
  | ok wire => exact .inl ⟨wire, rfl, admitted_frame_eq_ok_iff.1 hadmitted⟩
  | error error =>
    have hrefused : ¬ Admissible limit frame := by
      intro hframe
      have hwire := admitted_frame_eq_ok_iff.2 (isWire_iff.2 ⟨hframe, rfl⟩)
      rw [hwire] at hadmitted
      cases hadmitted
    refine .inr ⟨error, rfl, hrefused, iff_of_false nofun hrefused, fun hlarge => ?_⟩
    rw [Writer.Request.admitted,
      if_pos (show limit < (Writer.Request.frame frame).payloadSize from hlarge)] at hadmitted
    exact congrArg _ (Except.error.inj hadmitted).symm

theorem IsWire.answered (h : IsWire limit wire frame) : Answered limit frame (.ok ()) :=
  ⟨iff_of_true rfl (isWire_iff.1 h).1, fun hlarge => absurd h.within (Nat.not_le.2 hlarge)⟩

namespace Codec

variable {codec : Codec}

theorem encodeInto_of_admitted (h : (Writer.Request.frame frame).admitted codec.limit = .ok wire)
    (buffer : Bytes) : codec.encodeInto frame buffer = (.ok (), buffer ++ wire) := by
  obtain ⟨hencode, hwithin⟩ := admitted_frame_eq_ok_iff.1 h
  rw [encodeInto, if_neg (Nat.not_lt.2 hwithin), Frame.encodeInto, hencode]

theorem encodeInto_of_refused {error : Error}
    (h : (Writer.Request.frame frame).admitted codec.limit = .error error) (buffer : Bytes) :
    codec.encodeInto frame buffer = (.error error, buffer) := by
  unfold Writer.Request.admitted at h
  split at h
  · rename_i hlarge
    cases h
    exact if_pos hlarge
  · rename_i hsmall
    have hencode : frame.encode = .error error := h
    rw [encodeInto, if_neg (show ¬ frame.payload.length > codec.limit from hsmall), Frame.encodeInto,
      hencode]

def encodeAll (codec : Codec) : List Frame → Bytes → List (Except Error Unit) × Bytes
  | [], buffer => ([], buffer)
  | frame :: frames, buffer =>
    let (answer, next) := codec.encodeInto frame buffer
    let (answers, last) := encodeAll codec frames next
    (answer :: answers, last)

theorem encodeAll_cons {answer : Except Error Unit} {next : Bytes}
    (h : codec.encodeInto frame buffer = (answer, next)) (frames : List Frame) :
    codec.encodeAll (frame :: frames) buffer
      = (answer :: (codec.encodeAll frames next).1, (codec.encodeAll frames next).2) := by
  rw [encodeAll, h]

theorem encodeAll_wires (codec : Codec) (frames : List Frame) (buffer : Bytes) :
    ∃ wires, List.Forall₂ (IsWire codec.limit) wires
        (frames.filter fun frame => Admissible codec.limit frame) ∧
      (codec.encodeAll frames buffer).2 = buffer ++ wires.flatten ∧
      List.Forall₂ (Answered codec.limit) frames (codec.encodeAll frames buffer).1 := by
  induction frames generalizing buffer with
  | nil => exact ⟨[], .nil, (List.append_nil buffer).symm, .nil⟩
  | cons frame frames ih =>
    rcases admitted_frame_cases codec.limit frame with
      ⟨wire, hadmitted, hwire⟩ | ⟨error, hrefused, hinadmissible, hanswered⟩
    · obtain ⟨wires, hwires, hbuffer, hanswers⟩ := ih (buffer ++ wire)
      rw [encodeAll_cons (encodeInto_of_admitted hadmitted buffer)]
      refine ⟨wire :: wires, ?_, ?_, .cons hwire.answered hanswers⟩
      · rw [List.filter_cons, if_pos (decide_eq_true (isWire_iff.1 hwire).1)]
        exact .cons hwire hwires
      · rw [hbuffer, List.flatten_cons, List.append_assoc]
    · obtain ⟨wires, hwires, hbuffer, hanswers⟩ := ih buffer
      rw [encodeAll_cons (encodeInto_of_refused hrefused buffer)]
      refine ⟨wires, ?_, hbuffer, .cons hanswered hanswers⟩
      rw [List.filter_cons, if_neg (by simpa using hinadmissible)]
      exact hwires

end Codec

namespace Drain

/-- Whether every write takes bytes or is interrupted, and no flush fails for good. -/
structure Willing (drain : Drain) : Prop where
  writes : ∀ event ∈ drain.writes, event.goesOn = true
  flushes : ∀ error, some error ∈ drain.flushes → error.isInterrupted = true

variable {drain : Drain} {script left : List WriteEvent} {taken : Bytes} {outcome : Except Error Unit}

theorem Writing.of_willing (h : Writing script wire outcome left taken)
    (hwilling : ∀ event ∈ script, event.goesOn = true) :
    outcome = .ok () ∧ ∀ event ∈ left, event.goesOn = true := by
  cases h with
  | whole quiet hscript hgoes hroom =>
    refine ⟨rfl, fun event hevent => hwilling event ?_⟩
    rw [hscript]
    exact List.mem_append_right quiet hevent
  | @torn quiet left event hscript hgoes hstops hroom =>
    have hgoesOn := hwilling event (by simp [hscript])
    rw [hstops] at hgoesOn
    cases hgoesOn

theorem Flushing.of_willing {flushes rest : List (Option IoError)} {calls : Nat}
    (h : Flushing flushes outcome rest calls)
    (hwilling : ∀ error, some error ∈ flushes → error.isInterrupted = true) :
    outcome = .ok () ∧ ∀ error, some error ∈ rest → error.isInterrupted = true := by
  cases h with
  | done quiet hflushes hquiet =>
    refine ⟨rfl, fun error herror => hwilling error ?_⟩
    rcases hflushes with rfl | ⟨rfl, rfl⟩
    · simp [herror]
    · cases herror
  | @failed quiet error rest hflushes hquiet herror =>
    have hgoesOn := hwilling error (by simp [hflushes])
    rw [herror] at hgoesOn
    cases hgoesOn

end Drain

namespace Writer

variable {writer : Writer}

/-- A willing stream takes all the bytes that it is sent, and stays willing. -/
theorem sendBytes_of_willing (h : writer.drain.Willing) (wire : Bytes) :
    (writer.sendBytes wire).1 = .ok () ∧ (writer.sendBytes wire).2.drain.Willing ∧
      (writer.sendBytes wire).2.drain.written = writer.drain.written ++ wire := by
  have hwriting := Drain.writing_writeScript writer.drain.writes wire
  obtain ⟨hwrite, hleft⟩ := hwriting.of_willing h.writes
  obtain ⟨hflush, hrest⟩ := (Drain.flushing_flushScript writer.drain.flushes).of_willing h.flushes
  rw [hwrite] at hwriting
  rw [sendBytes_of_ok (show (writer.drain.writeAll wire).1 = .ok () from hwrite)]
  exact ⟨hflush, ⟨hleft, hrest⟩, congrArg (writer.drain.written ++ ·) hwriting.of_ok⟩

/-- A writer on a willing stream answers and writes what the codec with its limit does with a buffer. -/
theorem calls_of_willing (codec : Codec) (frames : List Frame) (buffer : Bytes)
    (hlimit : writer.limit = codec.limit) (hwilling : writer.drain.Willing)
    (hwritten : writer.drain.written = buffer) (scratch : Bytes) :
    (calls (frames.map .frame) writer scratch).1.map Call.answer = (codec.encodeAll frames buffer).1 ∧
      (calls (frames.map .frame) writer scratch).2.1.drain.written
        = (codec.encodeAll frames buffer).2 := by
  induction frames generalizing writer buffer scratch with
  | nil => exact ⟨rfl, hwritten⟩
  | cons frame frames ih =>
    rcases hcall : (Request.frame frame).call writer scratch with ⟨answer, next, used⟩
    have hsame := Request.limit_call (.frame frame) writer scratch
    rw [hcall] at hsame
    suffices hfirst : codec.encodeInto frame buffer = (answer, next.drain.written) ∧ next.drain.Willing by
      obtain ⟨hencode, hlater⟩ := hfirst
      obtain ⟨hanswers, hlast⟩ := ih next.drain.written (hsame.trans hlimit) hlater rfl used
      rw [Codec.encodeAll_cons hencode, List.map_cons, calls, hcall]
      exact ⟨congrArg (answer :: ·) hanswers, hlast⟩
    rcases admitted_frame_cases writer.limit frame with ⟨wire, hadmitted, -⟩ | ⟨error, hrefused, -⟩
    · obtain ⟨hanswer, hnext⟩ := Request.call_of_admitted hadmitted scratch
      obtain ⟨hsent, hlater, happended⟩ := sendBytes_of_willing hwilling wire
      rw [hcall] at hanswer hnext
      dsimp only at hanswer hnext
      rw [hlimit] at hadmitted
      rw [hanswer, hnext, hsent, happended, hwritten]
      exact ⟨Codec.encodeInto_of_admitted hadmitted buffer, hlater⟩
    · obtain ⟨hanswer, hnext⟩ := Request.call_of_refused hrefused scratch
      rw [hcall] at hanswer hnext
      dsimp only at hanswer hnext
      rw [hlimit] at hrefused
      rw [hanswer, hnext, hwritten]
      exact ⟨Codec.encodeInto_of_refused hrefused buffer, hwilling⟩

end Writer

/-- Under one limit both ends agree on every sequence of frames. The codec answers each frame by its rules,
leaves the buffer alone for those it refuses and appends the wire forms of the others, and it decodes the
buffer to these frames and leaves nothing. A writer on a willing stream gives the same answers and writes the
same bytes, and a reader gets the same frames from them, in whatever pieces they are written and read. -/
theorem both_ends_apply_one_limit (limit : Nat) (frames : List Frame) :
    let codec : Codec := ⟨limit⟩
    let encoded := codec.encodeAll frames []
    let admitted := frames.filter fun frame => Admissible limit frame
    (∀ frame buffer, ¬ Admissible limit frame → (codec.encodeInto frame buffer).2 = buffer) ∧
      List.Forall₂ (Answered limit) frames encoded.1 ∧
      (∃ wires, List.Forall₂ (fun wire frame => frame.encode = .ok wire) wires admitted ∧
        encoded.2 = wires.flatten) ∧
      drain limit encoded.2 = ⟨admitted, none, []⟩ ∧
      ∀ (writer : Writer) (scratch : Bytes), writer.limit = limit → writer.drain.Willing →
        writer.drain.written = [] →
        let written := Writer.calls (frames.map .frame) writer scratch
        written.1.map Writer.Call.answer = encoded.1 ∧
          written.2.1.drain.written = encoded.2 ∧
          ∀ source, Steady source → content source = written.2.1.drain.written →
            (Reader.fresh limit source).pull.frames = admitted ∧
              (Reader.fresh limit source).pull.failure = none := by
  intro codec encoded admitted
  obtain ⟨wires, hwires, hbuffer, hanswers⟩ := codec.encodeAll_wires frames []
  have hdrained : drain limit encoded.2 = ⟨admitted, none, []⟩ := by
    have hcarried := drain_carried (hwires.imp fun _ _ hwire => hwire.carries) []
    rw [List.append_nil, drain_nil] at hcarried
    rw [show encoded.2 = _ from hbuffer, List.nil_append, hcarried, Drained.after, List.append_nil]
  refine ⟨fun frame buffer hrefused => ?_, hanswers,
    ⟨wires, hwires.imp fun _ _ hwire => hwire.encoded, hbuffer⟩, hdrained,
    fun writer scratch hlimit hwilling hfresh => ?_⟩
  · rcases admitted_frame_cases limit frame with ⟨wire, -, hwire⟩ | ⟨error, herror, -⟩
    · exact absurd (isWire_iff.1 hwire).1 hrefused
    · rw [Codec.encodeInto_of_refused herror]
  · obtain ⟨hsame, hwritten⟩ := Writer.calls_of_willing codec frames [] hlimit hwilling hfresh scratch
    refine ⟨hsame, hwritten, fun source hsteady hcontent => ?_⟩
    have hpulled := Reader.pull_of_steady (show Steady (Reader.fresh limit source).source from hsteady)
    have hahead : (Reader.fresh limit source).ahead = encoded.2 := hcontent.trans hwritten
    rw [hahead, show (Reader.fresh limit source).limit = limit from rfl, hdrained] at hpulled
    exact hpulled

/-- Of four frames two are refused, one for its payload although its id holds a NUL, and the other two are
written in small pieces and read back with an interruption. -/
theorem one_limit_for_four_frames :
    let small : Frame := ⟨"a", 0, .log, [7, 8]⟩
    let large : Frame := ⟨"\x00", 0, .log, [7, 8, 9]⟩
    let named : Frame := ⟨"\x00", 0, .log, []⟩
    let empty : Frame := ⟨"é", 5, .command, []⟩
    let frames := [small, large, named, empty]
    let writer : Writer := ⟨2,
      { writes := [.accept 1, .fail (.os 4), .accept 48, .accept 60]
        flushes := [some (.os 4), none] }⟩
    let written := Writer.calls (frames.map .frame) writer []
    let source : List ReadEvent :=
      [.data (small.header.take 30), .fail (.os 4), .data (small.header.drop 30 ++ [7, 8] ++ empty.header)]
    writer.drain.Willing ∧ Steady source ∧ content source = written.2.1.drain.written ∧
      written.1.map Writer.Call.answer = [.ok (), .error (.payloadTooLarge 3 2),
        .error (.invalidProvider "provider id contains NUL"), .ok ()] ∧
      drain 2 written.2.1.drain.written = ⟨[small, empty], none, []⟩ ∧
      (Reader.fresh 2 source).pull.frames = [small, empty] ∧
      (Reader.fresh 2 source).pull.failure = none := by
  intro small large named empty frames writer written source
  have hwilling : writer.drain.Willing := by
    refine ⟨by decide, fun error herror => ?_⟩
    obtain rfl : error = .os 4 := by simpa [writer] using herror
    rfl
  have hsteady : Steady source := ⟨.inl (by decide), rfl, .inl (by decide), trivial⟩
  obtain ⟨-, -, -, hdrained, hwriter⟩ := both_ends_apply_one_limit 2 frames
  obtain ⟨hanswers, hwritten, hread⟩ := hwriter writer [] rfl hwilling rfl
  have hadmitted : frames.filter (fun frame => Admissible 2 frame) = [small, empty] := by decide
  have hcontent : content source = written.2.1.drain.written := by
    rw [hwritten]
    decide
  have hencoded : (Codec.encodeAll ⟨2⟩ frames []).1 = [.ok (), .error (.payloadTooLarge 3 2),
      .error (.invalidProvider "provider id contains NUL"), .ok ()] := by decide
  rw [hadmitted] at hdrained hread
  rw [← hwritten] at hdrained
  exact ⟨hwilling, hsteady, hcontent, hanswers.trans hencoded, hdrained, hread source hsteady hcontent⟩

end Courier.Frame
