import Courier.Frame.Writer

/-! # Writes and flushes of a drain

Writing and flushing are loops over what a stream does, and both go on after an interruption. `Writing`
and `Flushing` say at which write or flush a loop ends and what the stream has taken by then;
`Delivery` is what the bytes of one call come to, from the first write to the last flush.
-/

namespace Courier.Frame

namespace WriteEvent

def goesOn : WriteEvent → Bool
  | .accept count => count != 0
  | .fail error => error.isInterrupted

def fault : WriteEvent → Error
  | .accept _ => .connectionClosed
  | .fail error => .io error

/-- The number of bytes that some writes take when they are offered enough. -/
def room : List WriteEvent → Nat
  | [] => 0
  | .accept count :: events => count + room events
  | .fail _ :: events => room events

theorem isInterrupted_of_fault {event : WriteEvent} {io : IoError} (hstops : event.goesOn = false)
    (h : event.fault = .io io) : io.isInterrupted = false := by
  cases event with
  | accept count => cases h
  | fail error =>
    cases h
    exact hstops

end WriteEvent

namespace Drain

open WriteEvent

variable {script left : List WriteEvent} {bytes taken : Bytes} {outcome : Except Error Unit}

/-- How writing ends: with which outcome, what the stream will do next, and which bytes it took. -/
inductive Writing (script : List WriteEvent) (bytes : Bytes) :
    Except Error Unit → List WriteEvent → Bytes → Prop
  /-- The writes had room for all the bytes, or ran out, and then everything is taken. -/
  | whole (quiet : List WriteEvent) {left : List WriteEvent} (hscript : script = quiet ++ left)
      (hgoes : ∀ event ∈ quiet, event.goesOn = true) (hroom : bytes.length ≤ room quiet ∨ left = []) :
      Writing script bytes (.ok ()) left bytes
  /-- A write took nothing or failed before the bytes were all taken. -/
  | torn (quiet : List WriteEvent) {left : List WriteEvent} {event : WriteEvent}
      (hscript : script = quiet ++ event :: left) (hgoes : ∀ event ∈ quiet, event.goesOn = true)
      (hstops : event.goesOn = false) (hroom : room quiet < bytes.length) :
      Writing script bytes (.error event.fault) left (bytes.take (room quiet))

theorem Writing.afterInterruption {error : IoError} (h : Writing script bytes outcome left taken)
    (herror : error.isInterrupted = true) : Writing (.fail error :: script) bytes outcome left taken := by
  cases h with
  | whole quiet hscript hgoes hroom =>
    refine .whole (.fail error :: quiet) (congrArg (.fail error :: ·) hscript) ?_ hroom
    simpa [goesOn, herror] using hgoes
  | torn quiet hscript hgoes hstops hroom =>
    refine .torn (.fail error :: quiet) (congrArg (.fail error :: ·) hscript) ?_ hstops hroom
    simpa [goesOn, herror] using hgoes

theorem Writing.afterPart {count : Nat} (hcount : count ≠ 0)
    (h : Writing script (bytes.drop count) outcome left taken) :
    Writing (.accept count :: script) bytes outcome left (bytes.take count ++ taken) := by
  cases h with
  | whole quiet hscript hgoes hroom =>
    rw [List.take_append_drop]
    refine .whole (.accept count :: quiet) (congrArg (.accept count :: ·) hscript) ?_ ?_
    · simpa [goesOn, hcount] using hgoes
    · rcases hroom with hroom | hleft
      · left
        rw [List.length_drop] at hroom
        rw [room]
        omega
      · exact .inr hleft
  | torn quiet hscript hgoes hstops hroom =>
    rw [← List.take_add]
    refine .torn (.accept count :: quiet) (congrArg (.accept count :: ·) hscript) ?_ hstops ?_
    · simpa [goesOn, hcount] using hgoes
    · rw [List.length_drop] at hroom
      rw [room]
      omega

theorem writing_writeScript (script : List WriteEvent) (bytes : Bytes) :
    Writing script bytes (writeScript script bytes).1 (writeScript script bytes).2.1
      (writeScript script bytes).2.2.1 := by
  fun_induction writeScript script bytes with
  | case1 script => exact .whole [] rfl (by simp) (.inl (Nat.zero_le _))
  | case2 bytes hbytes => exact .whole [] rfl (by simp) (.inr rfl)
  | case3 error script bytes hbytes herror outcome left taken calls hrest ih =>
    rw [hrest] at ih
    exact ih.afterInterruption herror
  | case4 error script bytes hbytes herror =>
    exact .torn [] rfl (by simp) (Bool.eq_false_iff.2 herror) (List.length_pos_iff.2 hbytes)
  | case5 script bytes hbytes => exact .torn [] rfl (by simp) rfl (List.length_pos_iff.2 hbytes)
  | case6 count script bytes hbytes outcome left taken calls hrest ih =>
    rw [hrest] at ih
    exact ih.afterPart (Nat.succ_ne_zero count)

theorem Writing.of_ok (h : Writing script bytes (.ok ()) left taken) : taken = bytes := by
  cases h
  rfl

/-- Writing that fails ends at a write that takes nothing, with a proper prefix of the bytes taken. -/
theorem Writing.of_error {error : Error} (h : Writing script bytes (.error error) left taken) :
    taken <+: bytes ∧ taken.length < bytes.length ∧
      ∃ event : WriteEvent, event.goesOn = false ∧ error = event.fault := by
  cases h with
  | torn quiet hscript hgoes hstops hroom =>
    refine ⟨List.take_prefix _ _, ?_, _, hstops, rfl⟩
    rw [List.length_take]
    omega

variable {flushes rest : List (Option IoError)} {calls : Nat}

/-- How flushing ends: with which outcome, what later flushes will do, and after how many calls. -/
inductive Flushing (flushes : List (Option IoError)) :
    Except Error Unit → List (Option IoError) → Nat → Prop
  /-- A flush succeeded, as all do once nothing else is foretold. -/
  | done (quiet : List IoError) {rest : List (Option IoError)}
      (hflushes : flushes = quiet.map some ++ none :: rest ∨ flushes = quiet.map some ∧ rest = [])
      (hquiet : ∀ error ∈ quiet, error.isInterrupted = true) :
      Flushing flushes (.ok ()) rest (quiet.length + 1)
  | failed (quiet : List IoError) {error : IoError} {rest : List (Option IoError)}
      (hflushes : flushes = quiet.map some ++ some error :: rest)
      (hquiet : ∀ error ∈ quiet, error.isInterrupted = true) (herror : error.isInterrupted = false) :
      Flushing flushes (.error (.io error)) rest (quiet.length + 1)

theorem Flushing.afterInterruption {error : IoError} (h : Flushing flushes outcome rest calls)
    (herror : error.isInterrupted = true) :
    Flushing (some error :: flushes) outcome rest (calls + 1) := by
  cases h with
  | done quiet hflushes hquiet =>
    refine .done (error :: quiet) ?_ (by simpa [herror] using hquiet)
    simpa using hflushes
  | failed quiet hflushes hquiet hlast =>
    refine .failed (error :: quiet) ?_ (by simpa [herror] using hquiet) hlast
    simpa using hflushes

theorem flushing_flushScript (flushes : List (Option IoError)) :
    Flushing flushes (flushScript flushes).1 (flushScript flushes).2.1 (flushScript flushes).2.2 := by
  fun_induction flushScript flushes with
  | case1 => exact .done [] (.inr ⟨rfl, rfl⟩) (by simp)
  | case2 flushes => exact .done [] (.inl rfl) (by simp)
  | case3 error flushes herror outcome rest calls hrest ih =>
    rw [hrest] at ih
    exact ih.afterInterruption herror
  | case4 error flushes herror =>
    exact .failed [] rfl (by simp) (Bool.eq_false_iff.2 herror)

theorem Flushing.of_error {error : Error} (h : Flushing flushes (.error error) rest calls) :
    ∃ io, io.isInterrupted = false ∧ error = .io io := by
  cases h with
  | failed quiet hflushes hquiet herror => exact ⟨_, herror, rfl⟩

theorem Flushing.calls_pos (h : Flushing flushes outcome rest calls) : 0 < calls := by
  cases h <;> exact Nat.succ_pos _

/-- What the bytes of one call come to on a drain, with the answer of the call. -/
inductive Delivery (wire : Bytes) (before after : Drain) : Except Error Unit → Prop
  /-- All the bytes are written, and a flush succeeded after that. -/
  | flushed {calls : Nat} (hwritten : after.written = before.written ++ wire)
      (hflushing : Flushing before.flushes (.ok ()) after.flushes calls)
      (hcalls : after.flushCalls = before.flushCalls + calls) : Delivery wire before after (.ok ())
  /-- All the bytes are written, but a flush failed. -/
  | unflushed {calls : Nat} {error : IoError} (hwritten : after.written = before.written ++ wire)
      (hflushing : Flushing before.flushes (.error (.io error)) after.flushes calls)
      (hcalls : after.flushCalls = before.flushCalls + calls)
      (herror : error.isInterrupted = false) : Delivery wire before after (.error (.io error))
  /-- A write took nothing or failed, with a proper prefix of the bytes written, and nothing was flushed. -/
  | torn {part : Bytes} {event : WriteEvent} (hwritten : after.written = before.written ++ part)
      (hpart : part <+: wire) (hproper : part.length < wire.length)
      (hwriting : Writing before.writes wire (.error event.fault) after.writes part)
      (hstops : event.goesOn = false) (hflushes : after.flushes = before.flushes)
      (hcalls : after.flushCalls = before.flushCalls) : Delivery wire before after (.error event.fault)

theorem Delivery.of_writeAll_error {drain : Drain} {wire : Bytes} {error : Error}
    (h : (drain.writeAll wire).1 = .error error) :
    Delivery wire drain (drain.writeAll wire).2 (.error error) := by
  have hwriting := writing_writeScript drain.writes wire
  have hscript : (writeScript drain.writes wire).1 = .error error := h
  rw [hscript] at hwriting
  obtain ⟨hpart, hproper, event, hstops, rfl⟩ := hwriting.of_error
  exact .torn rfl hpart hproper hwriting hstops rfl rfl

theorem Delivery.of_writeAll_ok {drain : Drain} {wire : Bytes} (h : (drain.writeAll wire).1 = .ok ()) :
    Delivery wire drain (drain.writeAll wire).2.flush.2 (drain.writeAll wire).2.flush.1 := by
  have hwriting := writing_writeScript drain.writes wire
  have hscript : (writeScript drain.writes wire).1 = .ok () := h
  rw [hscript] at hwriting
  have hwritten : (drain.writeAll wire).2.flush.2.written = drain.written ++ wire :=
    congrArg (drain.written ++ ·) hwriting.of_ok
  have hflushing : Flushing drain.flushes (drain.writeAll wire).2.flush.1
      (drain.writeAll wire).2.flush.2.flushes _ := flushing_flushScript drain.flushes
  generalize (drain.writeAll wire).2.flush.1 = outcome at hflushing ⊢
  cases houtcome : outcome with
  | ok _ => exact .flushed hwritten (houtcome ▸ hflushing) rfl
  | error error =>
    rw [houtcome] at hflushing
    obtain ⟨io, hio, rfl⟩ := hflushing.of_error
    exact .unflushed hwritten hflushing rfl hio

end Drain

open Drain

theorem Writer.sendBytes_of_error {writer : Writer} {wire : Bytes} {error : Error}
    (h : (writer.drain.writeAll wire).1 = .error error) :
    writer.sendBytes wire = (.error error, { writer with drain := (writer.drain.writeAll wire).2 }) := by
  rw [sendBytes]
  split
  · rename_i other drain hwrite
    rw [hwrite] at h ⊢
    cases h
    rfl
  · rename_i drain hwrite
    rw [hwrite] at h
    cases h

theorem Writer.sendBytes_of_ok {writer : Writer} {wire : Bytes}
    (h : (writer.drain.writeAll wire).1 = .ok ()) :
    writer.sendBytes wire = ({ writer with drain := (writer.drain.writeAll wire).2 } : Writer).flush := by
  rw [sendBytes]
  split
  · rename_i other drain hwrite
    rw [hwrite] at h
    cases h
  · rename_i drain hwrite
    rw [hwrite]

theorem Writer.delivery_sendBytes (writer : Writer) (wire : Bytes) :
    Delivery wire writer.drain (writer.sendBytes wire).2.drain (writer.sendBytes wire).1 := by
  cases hwrite : (writer.drain.writeAll wire).1 with
  | error error =>
    rw [sendBytes_of_error hwrite]
    exact .of_writeAll_error hwrite
  | ok _ =>
    rw [sendBytes_of_ok hwrite]
    exact .of_writeAll_ok hwrite

theorem Writer.limit_sendBytes (writer : Writer) (wire : Bytes) :
    (writer.sendBytes wire).2.limit = writer.limit := by
  rw [sendBytes]
  split <;> rfl

end Courier.Frame
