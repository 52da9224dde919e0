import Courier.Proofs.Frame.Writing

/-! # Runs of calls on a writer

Every call on a writer is refused before it touches the stream, or delivers the bytes of one frame
(`Course`). What a call appends is settled by its request and by what the stream will do: neither the
scratch buffer nor anything that earlier calls came to takes part in it (`Independent`).
-/

namespace Courier.Frame

variable {writer : Writer} {scratch : Bytes} {frame : Frame}

theorem encode_error_cases {error : Error} (h : frame.encode = .error error) :
    (∃ reason, error = .invalidProvider reason) ∨
      error = .payloadTooLarge frame.payload.length largestPayload := by
  unfold encode at h
  split at h
  · rename_i fault hcheck
    cases h
    left
    unfold checkProvider at hcheck
    dsimp only at hcheck
    split at hcheck
    · cases hcheck
      exact ⟨_, rfl⟩
    · split at hcheck
      · cases hcheck
        exact ⟨_, rfl⟩
      · cases hcheck
  · split at h
    · cases h
      exact .inr rfl
    · cases h

namespace Writer

/-- What a writer is asked to send: a frame, given whole or by its parts, or bytes that already are one. -/
inductive Request where
  | frame (frame : Frame)
  | encoded (bytes : Bytes)

namespace Request

/-- The size that is held against the limit of the writer. -/
def payloadSize : Request → Nat
  | .frame frame => frame.payload.length
  | .encoded bytes => bytes.length - headerSize

def wire : Request → Except Error Bytes
  | .frame frame => frame.encode
  | .encoded bytes => .ok bytes

/-- The bytes to be sent under a limit, or why the request is refused. The limit is held against it first. -/
def admitted (limit : Nat) (request : Request) : Except Error Bytes :=
  if limit < request.payloadSize then .error (.payloadTooLarge request.payloadSize limit)
  else request.wire

/-- Makes the call with the scratch buffer that earlier calls have left behind. -/
def call (request : Request) (writer : Writer) (scratch : Bytes) : Except Error Unit × Writer × Bytes :=
  match request with
  | .frame frame => writer.sendThrough scratch frame
  | .encoded bytes => ((writer.sendEncoded bytes).1, (writer.sendEncoded bytes).2, scratch)

variable {request : Request} {wire : Bytes} {limit : Nat}

theorem admitted_eq_ok_iff :
    request.admitted limit = .ok wire ↔ request.payloadSize ≤ limit ∧ request.wire = .ok wire := by
  rw [admitted]
  split
  · rename_i hlarge
    exact ⟨nofun, fun h => absurd h.1 (Nat.not_le.2 hlarge)⟩
  · rename_i hsmall
    exact ⟨fun h => ⟨Nat.not_lt.1 hsmall, h⟩, fun h => h.2⟩

/-- A request is refused for the size of its payload or for the id of its provider. -/
theorem cause_of_refused {error : Error} (h : request.admitted limit = .error error) :
    (∃ size max, error = .payloadTooLarge size max) ∨ ∃ reason, error = .invalidProvider reason := by
  unfold admitted at h
  split at h
  · cases h
    exact .inl ⟨_, _, rfl⟩
  · cases request with
    | frame frame =>
      rcases encode_error_cases h with hreason | hsize
      · exact .inr hreason
      · exact .inl ⟨_, _, hsize⟩
    | encoded bytes => cases h

theorem call_of_refused {error : Error} (h : request.admitted writer.limit = .error error)
    (scratch : Bytes) :
    (request.call writer scratch).1 = .error error ∧ (request.call writer scratch).2.1 = writer := by
  unfold admitted at h
  cases request with
  | frame frame =>
    rw [call, sendThrough]
    split at h
    · rename_i hlarge
      cases h
      rw [if_pos (show frame.payload.length > writer.limit from hlarge)]
      exact ⟨rfl, rfl⟩
    · rename_i hsmall
      have hencode : frame.encode = .error error := h
      rw [if_neg (show ¬ frame.payload.length > writer.limit from hsmall)]
      simp [encodeInto, hencode]
  | encoded bytes =>
    rw [call, sendEncoded]
    split at h
    · rename_i hlarge
      cases h
      rw [if_pos (show bytes.length - headerSize > writer.limit from hlarge)]
      exact ⟨rfl, rfl⟩
    · cases h

/-- The bytes that are admitted are sent by themselves, whatever the scratch buffer held. -/
theorem call_of_admitted (h : request.admitted writer.limit = .ok wire) (scratch : Bytes) :
    (request.call writer scratch).1 = (writer.sendBytes wire).1 ∧
      (request.call writer scratch).2.1 = (writer.sendBytes wire).2 := by
  obtain ⟨hlimit, hwire⟩ := admitted_eq_ok_iff.1 h
  cases request with
  | frame frame =>
    have hsmall : ¬ frame.payload.length > writer.limit := Nat.not_lt.2 hlimit
    have hencode : frame.encode = .ok wire := hwire
    rw [call, sendThrough, if_neg hsmall]
    simp [encodeInto, hencode]
  | encoded bytes =>
    obtain rfl : wire = bytes := (Except.ok.inj hwire).symm
    have hsmall : ¬ wire.length - headerSize > writer.limit := Nat.not_lt.2 hlimit
    rw [call, sendEncoded, if_neg hsmall]
    exact ⟨rfl, rfl⟩

theorem limit_call (request : Request) (writer : Writer) (scratch : Bytes) :
    (request.call writer scratch).2.1.limit = writer.limit := by
  cases hadmitted : request.admitted writer.limit with
  | error error => rw [(call_of_refused hadmitted scratch).2]
  | ok wire => rw [(call_of_admitted hadmitted scratch).2, limit_sendBytes]

end Request

inductive Course (limit : Nat) (request : Request) (before after : Drain) : Except Error Unit → Prop
  /-- The call is refused for the size of its payload or for the id of its provider, without any write or
  flush. -/
  | refused {error : Error} (hrefused : request.admitted limit = .error error)
      (hcause : (∃ size max, error = .payloadTooLarge size max) ∨ ∃ reason, error = .invalidProvider reason)
      (hafter : after = before) : Course limit request before after (.error error)
  /-- The bytes of the request are delivered, whole or until the stream fails. -/
  | delivered {wire : Bytes} {answer : Except Error Unit} (hadmitted : request.admitted limit = .ok wire)
      (hdelivery : Drain.Delivery wire before after answer) : Course limit request before after answer

theorem course_call (request : Request) (writer : Writer) (scratch : Bytes) :
    Course writer.limit request writer.drain (request.call writer scratch).2.1.drain
      (request.call writer scratch).1 := by
  cases hadmitted : request.admitted writer.limit with
  | error error =>
    obtain ⟨hanswer, hafter⟩ := Request.call_of_refused hadmitted scratch
    rw [hanswer, hafter]
    exact .refused hadmitted (Request.cause_of_refused hadmitted) rfl
  | ok wire =>
    obtain ⟨hanswer, hafter⟩ := Request.call_of_admitted hadmitted scratch
    rw [hanswer, hafter]
    exact .delivered hadmitted (writer.delivery_sendBytes wire)

theorem Course.uninterrupted {limit : Nat} {request : Request} {before after : Drain} {io : IoError}
    (h : Course limit request before after (.error (.io io))) : io.isInterrupted = false := by
  generalize hanswer : Except.error (Error.io io) = answer at h
  cases h with
  | refused hrefused hcause hafter =>
    rcases hcause with ⟨size, max, rfl⟩ | ⟨reason, rfl⟩ <;> cases hanswer
  | delivered hadmitted hdelivery =>
    cases hdelivery with
    | flushed => cases hanswer
    | unflushed hwritten hflushing hcalls herror =>
      cases hanswer
      exact herror
    | torn hwritten hpart hproper hwriting hstops =>
      exact WriteEvent.isInterrupted_of_fault hstops (Except.error.inj hanswer).symm

/-- A call that succeeds has put all its bytes on the stream. -/
theorem Course.appended_of_ok {limit : Nat} {request : Request} {before after : Drain}
    (h : Course limit request before after (.ok ())) :
    ∃ wire, request.admitted limit = .ok wire ∧ after.written = before.written ++ wire := by
  generalize hanswer : Except.ok () = answer at h
  cases h with
  | refused hrefused hcause hafter => cases hanswer
  | @delivered wire _ hadmitted hdelivery =>
    cases hdelivery with
    | flushed hwritten => exact ⟨wire, hadmitted, hwritten⟩
    | unflushed hwritten hflushing hcalls herror => cases hanswer
    | torn hwritten => cases hanswer

theorem Course.appended_encoded {limit : Nat} {bytes : Bytes} {before after : Drain}
    (h : Course limit (.encoded bytes) before after (.ok ())) : after.written = before.written ++ bytes := by
  obtain ⟨wire, hadmitted, hwritten⟩ := h.appended_of_ok
  have hwire := (Request.admitted_eq_ok_iff.1 hadmitted).2
  rw [Request.wire] at hwire
  rw [hwritten, Except.ok.inj hwire]

theorem Course.exists_appended {limit : Nat} {request : Request} {before after : Drain}
    {answer : Except Error Unit} (h : Course limit request before after answer) :
    ∃ part, after.written = before.written ++ part := by
  cases h with
  | refused hrefused hcause hafter => exact ⟨[], by rw [hafter, List.append_nil]⟩
  | delivered hadmitted hdelivery =>
    cases hdelivery with
    | flushed hwritten => exact ⟨_, hwritten⟩
    | unflushed hwritten => exact ⟨_, hwritten⟩
    | torn hwritten => exact ⟨_, hwritten⟩

theorem Course.refused_of_lt {limit : Nat} {request : Request} {before after : Drain}
    {answer : Except Error Unit} (h : Course limit request before after answer)
    (hlarge : limit < request.payloadSize) : answer.isOk = false ∧ after = before := by
  cases h with
  | refused hrefused hcause hafter => exact ⟨rfl, hafter⟩
  | delivered hadmitted => exact absurd (Request.admitted_eq_ok_iff.1 hadmitted).1 (Nat.not_le.2 hlarge)

/-- Bytes that are not sent leave a proper prefix of them without a flush, or all of them if only a flush
failed. -/
theorem Course.left_of_error {limit : Nat} {bytes : Bytes} {before after : Drain} {error : Error}
    (h : Course limit (.encoded bytes) before after (.error error)) :
    ∃ part, after.written = before.written ++ part ∧ part <+: bytes ∧
      (part.length < bytes.length ∧ after.flushCalls = before.flushCalls ∨
        part = bytes ∧ before.flushCalls < after.flushCalls) := by
  generalize hanswer : Except.error error = answer at h
  cases h with
  | refused hrefused hcause hafter =>
    refine ⟨[], by rw [hafter, List.append_nil], List.nil_prefix, .inl ⟨?_, by rw [hafter]⟩⟩
    unfold Request.admitted at hrefused
    split at hrefused
    · rename_i hlarge
      rw [Request.payloadSize] at hlarge
      exact Nat.lt_of_lt_of_le (Nat.zero_lt_of_lt hlarge) (Nat.sub_le _ _)
    · cases hrefused
  | @delivered wire _ hadmitted hdelivery =>
    have hwire := (Request.admitted_eq_ok_iff.1 hadmitted).2
    rw [Request.wire] at hwire
    obtain rfl := Except.ok.inj hwire
    cases hdelivery with
    | flushed => cases hanswer
    | unflushed hwritten hflushing hcalls herror =>
      have hpos := hflushing.calls_pos
      exact ⟨bytes, hwritten, List.prefix_rfl, .inr ⟨rfl, by omega⟩⟩
    | torn hwritten hpart hproper hwriting hstops hflushes hcalls =>
      exact ⟨_, hwritten, hpart, .inl ⟨hproper, hcalls⟩⟩

structure Call where
  request : Request
  before : Drain
  answer : Except Error Unit
  after : Drain

def calls : List Request → Writer → Bytes → List Call × Writer × Bytes
  | [], writer, scratch => ([], writer, scratch)
  | request :: requests, writer, scratch =>
    let (answer, next, used) := request.call writer scratch
    let (later, last) := calls requests next used
    (⟨request, writer.drain, answer, next.drain⟩ :: later, last)

end Writer

end Courier.Frame
