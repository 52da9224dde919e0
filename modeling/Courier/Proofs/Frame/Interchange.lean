import Courier.Proofs.Frame.RoundTrip
import Courier.Proofs.Frame.Sending
import Mathlib.Data.List.Forall2

/-! # Ways to send a frame

A frame is sent as it is, by its parts, or as the bytes that it was encoded to. The size that is held against
the limit is the same each time, so the ways can be exchanged for one another anywhere in a run of calls
and the stream shows no difference.
-/

namespace Courier.Frame.Writer

variable {frame : Frame} {wire : Bytes} {requests others : List Request} {request other : Request}

/-- Whether two requests come to the same bytes, or to the same refusal, under every limit. -/
def Request.Alike (request other : Request) : Prop :=
  ∀ limit, request.admitted limit = other.admitted limit

namespace Request

theorem Alike.refl (request : Request) : Alike request request := fun _ => rfl

theorem payloadSize_encoded (hwire : frame.encode = .ok wire) :
    (encoded wire).payloadSize = frame.payload.length := by
  rw [payloadSize, length_of_encode hwire, wireSize, encodedSize]
  omega

theorem alike_encoded (hwire : frame.encode = .ok wire) : Alike (.frame frame) (.encoded wire) := by
  intro limit
  rw [admitted, admitted, payloadSize_encoded hwire]
  simp only [payloadSize, Request.wire, hwire]

theorem Alike.call (h : Alike request other) (writer : Writer) (scratch used : Bytes) :
    (request.call writer scratch).1 = (other.call writer used).1 ∧
      (request.call writer scratch).2.1 = (other.call writer used).2.1 := by
  cases hadmitted : request.admitted writer.limit with
  | error error =>
    have hother : other.admitted writer.limit = .error error := by rw [← h, hadmitted]
    obtain ⟨hanswer, hafter⟩ := call_of_refused hadmitted scratch
    obtain ⟨hanswer', hafter'⟩ := call_of_refused hother used
    rw [hanswer, hafter, hanswer', hafter']
    exact ⟨rfl, rfl⟩
  | ok bytes =>
    have hother : other.admitted writer.limit = .ok bytes := by rw [← h, hadmitted]
    obtain ⟨hanswer, hafter⟩ := call_of_admitted hadmitted scratch
    obtain ⟨hanswer', hafter'⟩ := call_of_admitted hother used
    rw [hanswer, hafter, hanswer', hafter']
    exact ⟨rfl, rfl⟩

end Request

/-- What the stream shows of a call: the answer, and what the stream was before and after it. -/
def Call.seen (call : Call) : Drain × Except Error Unit × Drain :=
  (call.before, call.answer, call.after)

/-- Runs of requests that are alike one by one show no difference, whatever the scratch buffers held. -/
theorem calls_alike (h : List.Forall₂ Request.Alike requests others) (writer : Writer)
    (scratch used : Bytes) :
    (calls requests writer scratch).1.map Call.seen = (calls others writer used).1.map Call.seen ∧
      (calls requests writer scratch).2.1 = (calls others writer used).2.1 := by
  induction h generalizing writer scratch used with
  | nil => exact ⟨rfl, rfl⟩
  | @cons request other requests others hfirst _ ih =>
    obtain ⟨hanswer, hafter⟩ := hfirst.call writer scratch used
    have hlater := ih (request.call writer scratch).2.1 (request.call writer scratch).2.2
      (other.call writer used).2.2
    rw [calls, calls]
    dsimp only
    rw [List.map_cons, List.map_cons, Call.seen, Call.seen]
    rw [hafter] at hlater
    rw [hanswer, hafter, hlater.1, hlater.2]
    exact ⟨rfl, rfl⟩

theorem alike_exchanged (h : Request.Alike request other) (earlier later : List Request) :
    List.Forall₂ Request.Alike (earlier ++ request :: later) (earlier ++ other :: later) := by
  have hrefl (requests : List Request) : List.Forall₂ Request.Alike requests requests :=
    List.forall₂_same.2 fun request _ => .refl request
  exact List.rel_append (hrefl earlier) (.cons h (hrefl later))

/-- A frame that has a wire form is sent in the same way by its parts, as a whole and as its wire form: the
answers are the same, and so are the streams after it, with what was written to them, the numbers of writes
and flushes, and all that they will do next. It is refused, with its size and the limit, exactly if its
payload is over the limit, and otherwise its wire form is what is delivered. Anywhere between other calls
one way can take the place of another one, and no call shows a difference. -/
theorem ways_to_send_are_one (hwire : frame.encode = .ok wire) (writer : Writer)
    (scratch used : Bytes) :
    let parts := writer.sendParts scratch frame.provider frame.answerId frame.kind frame.payload
    let whole := writer.sendThrough used frame
    let encoded := writer.sendEncoded wire
    (parts.1 = encoded.1 ∧ parts.2.1 = encoded.2) ∧ (whole.1 = encoded.1 ∧ whole.2.1 = encoded.2) ∧
      (writer.limit < frame.payload.length →
        encoded = (.error (.payloadTooLarge frame.payload.length writer.limit), writer)) ∧
      (frame.payload.length ≤ writer.limit →
        Drain.Delivery wire writer.drain encoded.2.drain encoded.1) ∧
      ∀ earlier later,
        let run := calls (earlier ++ .frame frame :: later) writer scratch
        let exchanged := calls (earlier ++ .encoded wire :: later) writer used
        run.1.map Call.seen = exchanged.1.map Call.seen ∧ run.2.1 = exchanged.2.1 := by
  intro parts whole encoded
  have halike := Request.alike_encoded hwire
  refine ⟨halike.call writer scratch used, halike.call writer used used, fun hlarge => ?_,
    fun hwithin => ?_, fun earlier later => calls_alike (alike_exchanged halike earlier later) writer _ _⟩
  · have hrefused : (Request.encoded wire).admitted writer.limit
        = .error (.payloadTooLarge frame.payload.length writer.limit) := by
      rw [Request.admitted, Request.payloadSize_encoded hwire, if_pos hlarge]
    obtain ⟨hanswer, hafter⟩ := Request.call_of_refused hrefused used
    exact Prod.ext hanswer hafter
  · have hadmitted : (Request.encoded wire).admitted writer.limit = .ok wire := by
      rw [Request.admitted, Request.payloadSize_encoded hwire, if_neg (Nat.not_lt.2 hwithin)]
      rfl
    obtain ⟨hanswer, hafter⟩ := Request.call_of_admitted hadmitted used
    rw [show encoded.1 = _ from hanswer, show encoded.2 = _ from hafter]
    exact writer.delivery_sendBytes wire

/-- A payload of just the limit, on a stream that takes three bytes, is interrupted and fails after twenty
more: the third way, too, leaves 23 bytes there after four writes and no flush. -/
theorem ways_to_send_into_a_torn_stream :
    let frame : Frame := ⟨"é", 5, .segment, [7, 8]⟩
    let wire : Bytes := [0x41, 0x43, 1, 1, 0xC3, 0xA9] ++ List.replicate 30 0 ++ [5, 0, 0, 0, 0, 0, 0, 0]
      ++ [2, 0, 0, 0, 7, 8]
    let writer : Writer := ⟨2,
      { writes := [.accept 3, .fail (.os 4), .accept 20, .fail (.os 32)], flushes := [some (.os 5)] }⟩
    frame.encode = .ok wire ∧
      (writer.sendParts [9] "é" 5 .segment [7, 8]).1 = .error (.io (.os 32)) ∧
      (writer.sendThrough [] frame).1 = .error (.io (.os 32)) ∧
      (writer.sendThrough [] frame).2.1 = (writer.sendEncoded wire).2 ∧
      (writer.sendEncoded wire).2.drain = { written := wire.take 23, writeCalls := 4, flushes := [some (.os 5)] } ∧
      (calls [.encoded [1], .frame frame, .encoded [2]] writer []).1.map Call.seen
        = (calls [.encoded [1], .encoded wire, .encoded [2]] writer []).1.map Call.seen := by
  intro frame wire writer
  have hframe : frame.Encodable := ⟨by decide, by decide, by decide⟩
  have hwire : frame.encode = .ok wire := encode_eq_ok_iff.2 ⟨hframe, by decide⟩
  obtain ⟨hparts, hwhole, -, -, hruns⟩ := ways_to_send_are_one hwire writer [9] []
  have hanswer : (writer.sendEncoded wire).1 = .error (.io (.os 32)) := by decide
  have hdrain : (writer.sendEncoded wire).2.drain
      = { written := wire.take 23, writeCalls := 4, flushes := [some (.os 5)] } := by decide
  rw [hanswer] at hparts hwhole
  exact ⟨hwire, hparts.1, hwhole.1, hwhole.2, hdrain, (hruns [.encoded [1]] [.encoded [2]]).1⟩

end Courier.Frame.Writer
