import Courier.Proofs.Sink.Appending

/-! # Room for a message

An append succeeds if its message is within the limit and the storage takes all of it (`append_eq_ok_iff`). The
storage of a host takes what there is room for, so a frame gets to a file exactly if its payload is within the
limit of the sink and the file may grow by the frame (`FileSink.isOk_send_iff`).
-/

namespace Courier

open Courier.Frame (WriteEvent Drain)

namespace Frame.Drain

theorem writeScript_fail_eq_ok_iff {error : IoError} (h : error.isInterrupted = false)
    (script : List WriteEvent) (bytes : Bytes) :
    (writeScript (.fail error :: script) bytes).1 = .ok () ↔ bytes = [] := by
  cases bytes with
  | nil => simp [writeScript]
  | cons byte bytes => simp [writeScript, h]

theorem writeScript_accept {count : Nat} (hcount : 0 < count) (script : List WriteEvent) (bytes : Bytes) :
    (writeScript (.accept count :: script) bytes).1 = (writeScript script (bytes.drop count)).1 := by
  obtain ⟨count, rfl⟩ := Nat.exists_eq_succ_of_ne_zero (Nat.ne_of_gt hcount)
  cases bytes with
  | nil => simp [writeScript]
  | cons byte bytes => rfl

end Frame.Drain

/-- Bytes are sent if they are written and flushed without a failure. -/
theorem Frame.Writer.sendBytes_eq_ok_iff (writer : Frame.Writer) (bytes : Bytes) :
    (writer.sendBytes bytes).1 = .ok () ↔ (Drain.writeScript writer.drain.writes bytes).1 = .ok () ∧
      (Drain.flushScript writer.drain.flushes).1 = .ok () := by
  have hwrites : (writer.drain.writeAll bytes).1 = (Drain.writeScript writer.drain.writes bytes).1 := rfl
  rw [← hwrites]
  cases hwrite : (writer.drain.writeAll bytes).1 with
  | error error =>
    rw [sendBytes_of_error hwrite]
    exact iff_of_false nofun fun h => nomatch h.1
  | ok _ =>
    rw [sendBytes_of_ok hwrite]
    exact (and_iff_right rfl).symm

theorem Frame.Writer.sendEncoded_eq_ok_iff (writer : Frame.Writer) (bytes : Bytes) :
    (writer.sendEncoded bytes).1 = .ok () ↔
      bytes.length - headerSize ≤ writer.limit ∧ (writer.sendBytes bytes).1 = .ok () := by
  rw [sendEncoded]
  by_cases hlarge : bytes.length - headerSize > writer.limit
  · simp [hlarge, Nat.not_le.2 hlarge]
  · rw [if_neg hlarge]
    exact (and_iff_right (Nat.not_lt.1 hlarge)).symm

namespace Sink

/-- A message is appended if it is within the limit and written and flushed without a failure. -/
theorem append_eq_ok_iff (limit : Nat) (writes : List WriteEvent) (flushes : List (Option IoError))
    (content message : Bytes) : (append limit writes flushes content message).1 = .ok () ↔
      message.length - Frame.headerSize ≤ limit ∧ (Drain.writeScript writes message).1 = .ok () ∧
        (Drain.flushScript flushes).1 = .ok () := by
  have hsent : (append limit writes flushes content message).1
      = (Frame.Writer.sendEncoded ⟨limit, { writes, flushes, written := content }⟩ message).1 := by
    unfold append
    dsimp only
    split <;> rename_i hsend
    · exact (congrArg Prod.fst hsend).symm
    · exact (congrArg Prod.fst hsend).symm
  rw [hsent, Frame.Writer.sendEncoded_eq_ok_iff, Frame.Writer.sendBytes_eq_ok_iff]

namespace FileSink

variable {host : Host} {sink : FileSink} {frame : Frame} {wire : Bytes}

/-- Whether the storage behind a sink takes so many bytes more. -/
def HasRoom (host : Host) (sink : FileSink) (size : Nat) : Prop :=
  match sink.target with
  | .file id => ∀ limit ∈ host.sizeLimit, (host.store.content id).length + size ≤ limit
  | .device full => full = false

theorem writeScript_outlook_eq_ok_iff (host : Host) (sink : FileSink) {message : Bytes} (h : message ≠ []) :
    (Drain.writeScript (sink.outlook host) message).1 = .ok () ↔ sink.HasRoom host message.length := by
  have hlength := List.length_pos_iff.2 h
  have hfull : (IoError.os 28).isInterrupted = false := rfl
  have hgrown : (IoError.os 27).isInterrupted = false := rfl
  rw [outlook, HasRoom]
  cases sink.target with
  | device full =>
    cases full with
    | false => simp [Drain.writeScript]
    | true => simp [Drain.writeScript_fail_eq_ok_iff hfull, h]
  | file id =>
    cases host.sizeLimit with
    | none => simp [growth, Drain.writeScript]
    | some limit =>
      by_cases hroom : (host.store.content id).length < limit
      · simp only [growth, if_pos hroom, Drain.writeScript_accept (Nat.sub_pos_of_lt hroom),
          Drain.writeScript_fail_eq_ok_iff hgrown, List.drop_eq_nil_iff, Option.mem_some_iff, forall_eq']
        omega
      · simp only [growth, if_neg hroom, Drain.writeScript_fail_eq_ok_iff hgrown, h, Option.mem_some_iff,
          forall_eq', false_iff]
        omega

theorem isOk_sendUnder_iff (writes : List WriteEvent) (flushes : List (Option IoError)) (host : Host)
    (sink : FileSink) (message : Bytes) : (sendUnder writes flushes host sink message).1.isOk = true ↔
      message.length - Frame.headerSize ≤ sink.limit ∧ (Drain.writeScript writes message).1 = .ok () ∧
        (Drain.flushScript flushes).1 = .ok () := by
  rw [← append_eq_ok_iff sink.limit writes flushes (sink.content host), sendUnder]
  dsimp only
  cases (append sink.limit writes flushes (sink.content host) message).1 with
  | error error => exact iff_of_false Bool.false_ne_true (by simp)
  | ok _ => exact iff_of_true rfl rfl

/-- A frame gets to a file if its payload is within the limit of the sink and there is room for it. -/
theorem isOk_send_iff (hwire : frame.encode = .ok wire) : (sink.send host wire).1.isOk = true ↔
    frame.payload.length ≤ sink.limit ∧ sink.HasRoom host frame.wireSize := by
  have hlength := Frame.length_of_encode hwire
  have hsize : wire.length - Frame.headerSize = frame.payload.length := by
    rw [hlength, Frame.wireSize, Frame.encodedSize, Nat.add_sub_cancel_left]
  have hne : wire ≠ [] := by
    rintro rfl
    rw [Frame.wireSize, Frame.encodedSize, Frame.headerSize, List.length_nil] at hlength
    omega
  rw [send, isOk_sendUnder_iff, hsize, writeScript_outlook_eq_ok_iff host sink hne, hlength]
  simp [Drain.flushScript]

end FileSink

end Sink

end Courier
