import Courier.Proofs.Cli.Stages

/-! # Exit codes of refused frames

A frame that has no wire form, for its provider id or because its payload is too large to be counted, is refused
before its port is opened, and the exit code is the one for invalid data. A payload that is only too large for a
stream is refused by the stream. Its fault then goes by as a failure of the system without a kind, so the exit
code is the one for internal errors. Nothing is delivered either way (`exit_codes_of_refused_frames`).
-/

namespace Courier

/-- Nothing went from the host to anyone: no file has more in it than before, though there may be a new and
empty one, no queue has a new message, and nothing went over a new connection. -/
structure Undelivered (host later : Host) : Prop where
  files : ∀ file, later.store.content file = host.store.content file ∨
    file = host.store.nextId ∧ later.store.content file = []
  queues : later.endpoints = host.endpoints
  connections : later.connections = host.connections ∨
    ∃ fresh : Frame.Drain, fresh.written = [] ∧ later.connections = host.connections ++ [fresh]

namespace Frame.Writer

/-- The fault of bytes that are more than a header and a payload within the limit. -/
def oversize (limit : Nat) (bytes : Bytes) : Error :=
  .payloadTooLarge (bytes.length - headerSize) limit

theorem sendEncoded_of_oversized {limit : Nat} {bytes : Bytes} (h : limit < bytes.length - headerSize)
    (drain : Drain) :
    sendEncoded ⟨limit, drain⟩ bytes = (.error (oversize limit bytes), ⟨limit, drain⟩) :=
  if_pos h

end Frame.Writer

open Courier.Frame (headerSize)
open Courier.Frame.Writer (oversize sendEncoded_of_oversized)

variable {host opened : Host} {message : Bytes}

namespace Sink

theorem append_of_oversized {limit : Nat} (h : limit < message.length - headerSize)
    (writes : List Frame.WriteEvent) (flushes : List (Option IoError)) (content : Bytes) :
    append limit writes flushes content message = (.error (oversize limit message), content) := by
  unfold append
  simp only [sendEncoded_of_oversized h, List.take_length]

namespace FileSink

variable {sink : FileSink}

theorem content_setContent_self (host : Host) (sink : FileSink) (file : Nat) :
    (sink.setContent host (sink.content host)).store.content file = host.store.content file := by
  rw [content_setContent]
  split
  · exact content_of_target ‹_› host
  · rfl

/-- A file that is cut back to what it held has been sent nothing. -/
theorem undelivered_setContent (h : Undelivered host opened) (sink : FileSink) :
    Undelivered host (sink.setContent opened (sink.content opened)) := by
  have helsewhere : (sink.setContent opened (sink.content opened)).endpoints = opened.endpoints ∧
      (sink.setContent opened (sink.content opened)).connections = opened.connections := by
    rw [setContent]
    split <;> exact ⟨rfl, rfl⟩
  obtain ⟨hqueues, hconnections⟩ := helsewhere
  refine ⟨fun file => ?_, hqueues.trans h.queues, ?_⟩
  · rw [content_setContent_self]
    exact h.files file
  · rw [hconnections]
    exact h.connections

theorem send_of_oversized (h : sink.limit < message.length - headerSize) (host : Host) :
    sink.send host message
      = (.error (.send sink.path (Transport.Error.ofFrame (oversize sink.limit message))),
        sink.setContent host (sink.content host)) := by
  rw [send, sendUnder, append_of_oversized h]
  rfl

/-- Opening a file can make a new one, which is empty. -/
theorem undelivered_open {path : String} {limit : Nat} (h : FileSink.open host path limit = (.ok sink, opened)) :
    sink.limit = limit ∧ Undelivered host opened := by
  rw [FileSink.open] at h
  split at h
  · cases h
  · rename_i store target hstore
    cases h
    refine ⟨rfl, ⟨fun file => ?_, rfl, .inl rfl⟩⟩
    obtain rfl | ⟨place, -, -, rfl⟩ := Store.openAppend_cases hstore
    · exact .inl rfl
    · by_cases hfile : file = host.store.nextId
      · exact .inr ⟨hfile, by simp [Store.content, hfile]⟩
      · left
        simp [Store.content, Table.get?_insert_of_ne _ _ hfile]

end FileSink

end Sink

namespace Network.Sender

variable {sender : Sender}

/-- A connection is made for the first message, though nothing of it goes over it. -/
theorem send_of_oversized (h : sender.limit < message.length - headerSize) (hclosed : sender.connection = none)
    (hreach : ∃ made, sender.connect host = .ok made) :
    ∃ later after, sender.send host message
        = (.error (.send sender.address (Transport.Error.ofFrame (oversize sender.limit message))), later, after) ∧
      Undelivered host later := by
  obtain ⟨⟨connection, connected⟩, hconnect⟩ := hreach
  obtain ⟨rfl, fresh, hwritten, -, -, rfl⟩ := connect_cases hconnect
  unfold send
  rw [hclosed, hconnect]
  unfold sendOn
  simp only [sendEncoded_of_oversized h]
  refine ⟨_, _, rfl, fun file => .inl rfl, rfl, .inr ⟨fresh, hwritten, ?_⟩⟩
  simp

end Network.Sender

namespace Transport

variable {port : Port} {config : StreamConfig} {transport : Transport}

/-- A stream refuses a message whose payload is over its limit, and the fault has lost its kind by then. -/
theorem send_of_oversized (hstream : port.backend? = some .file ∨ port.backend? = some .network)
    (hopen : openSend host port config = (.ok transport, opened))
    (hreach : ∀ sender, transport = .network sender → ∃ made, sender.connect opened = .ok made)
    (hlarge : config.limit < message.length - headerSize) :
    ∃ target later after, transport.send opened message
        = (.error (.send target (Error.ofFrame (oversize config.limit message))), later, after) ∧
      Undelivered host later := by
  rw [openSend] at hopen
  rcases hstream with hfile | hnetwork
  · rw [hfile] at hopen
    dsimp only at hopen
    rcases hsink : Sink.FileSink.open host port.address config.limit with ⟨_ | sink, made⟩
    · rw [hsink] at hopen
      cases hopen
    · rw [hsink] at hopen
      cases hopen
      obtain ⟨hlimit, hundelivered⟩ := Sink.FileSink.undelivered_open hsink
      rw [← hlimit] at hlarge ⊢
      rw [send, Sink.FileSink.send_of_oversized hlarge]
      exact ⟨_, _, _, rfl, Sink.FileSink.undelivered_setContent hundelivered sink⟩
  · rw [hnetwork] at hopen
    dsimp only at hopen
    cases hsender : Network.Sender.open port.address config.limit config.writeTimeout with
    | error error =>
      rw [hsender] at hopen
      cases hopen
    | ok sender =>
      rw [hsender] at hopen
      cases hopen
      obtain ⟨hclosed, -, hlimit⟩ := Network.Sender.fields_of_open hsender
      rw [← hlimit] at hlarge ⊢
      obtain ⟨later, after, hsend, hundelivered⟩ :=
        Network.Sender.send_of_oversized hlarge hclosed (hreach sender rfl)
      rw [send, hsend]
      exact ⟨_, later, _, rfl, hundelivered⟩

end Transport

namespace Cli

namespace Exit

theorem code_of_ofFrame {error : Frame.Error} (h : ∀ source, error ≠ .io source) (context target : String) :
    (ofTransport context (.send target (Transport.Error.ofFrame error))).code = internal := by
  cases error with
  | io source => exact absurd rfl (h source)
  | _ => rfl

theorem code_ofFrame_ne_internal {error : Frame.Error} (h : ∀ source, error ≠ .io source) (context : String) :
    (ofFrame context error).code ≠ internal := by
  cases error with
  | io source => exact absurd rfl (h source)
  | connectionClosed => exact show failure ≠ internal by decide
  | _ => exact show invalidData ≠ internal by decide

/-- Only a failure of the system keeps its exit code when it has gone through a stream. -/
theorem code_of_ofFrame_iff (context target : String) (error : Frame.Error) :
    (ofTransport context (.send target (Transport.Error.ofFrame error))).code = (ofFrame context error).code ↔
      ∃ source, error = .io source := by
  constructor
  · intro hsame
    by_contra hother
    have hnone : ∀ source, error ≠ .io source := not_exists.1 hother
    exact code_ofFrame_ne_internal hnone context (hsame.symm.trans (code_of_ofFrame hnone context target))
  · rintro ⟨source, rfl⟩
    rfl

theorem code_of_encode_error {frame : Frame} {error : Frame.Error} (h : frame.encode = .error error)
    (context : String) : (ofFrame context error).code = invalidData := by
  rcases Frame.encode_error_cases h with ⟨reason, rfl⟩ | rfl <;> rfl

end Exit

variable {around : Surroundings} {environmentPort : Option String} {words : List String}
  {invocation : Invocation} {arguments : SendArguments}

theorem run_of_send_failure {failure : Failure} {later : Host}
    (hparse : Invocation.parse environmentPort words = .ok invocation)
    (hcommand : invocation.command = .send arguments)
    (hrun : Send.run around.clock around.host arguments (invocation.format.getD defaultFormat)
      = (.error failure, later)) :
    Cli.run around environmentPort words
      = (⟨failure.code, { stdout := [], stderr := line failure.line }⟩, { around with host := later }) := by
  simp only [Cli.run, hparse, perform, hcommand, hrun]
  rfl

namespace Send

variable {clock : UInt64} {port : Port} {timeout : Option Span} {payload : Bytes}

theorem clear_three (hport : arguments.port = port.text) (htimeout : HasTimeout arguments timeout)
    (hpayload : HasPayload host.store arguments payload) : Clear clock host arguments 3 :=
  ((clear_zero.succ rfl (not_fails_port hport)).succ rfl (not_fails_timeout htimeout)).succ rfl
    (not_fails_payload hpayload)

theorem run_of_encode_error {error : Frame.Error} (hport : arguments.port = port.text)
    (htimeout : HasTimeout arguments timeout) (hpayload : HasPayload host.store arguments payload)
    (herror : (intended clock arguments payload).encode = .error error) (format : Format) :
    run clock host arguments format = (.error (Exit.ofFrame "encode failed" error), host) := by
  have hfirst : FirstFailing clock host arguments .encoding (Exit.ofFrame "encode failed" error) :=
    ⟨.encoding hpayload herror, clear_three hport htimeout hpayload⟩
  rcases run_cases clock host arguments format with
    ⟨-, -, -, -, -, -, -, hclear, -⟩ | ⟨stage, failure, later, hrun, hother, hearly⟩
  · exact absurd hfirst.fails (hclear _ _ (by decide))
  · obtain ⟨rfl, rfl⟩ := hother.unique hfirst
    rw [hrun, hearly (by decide)]

theorem run_of_send_error {message : Bytes} {transport after : Transport} {error : Transport.Error}
    {later : Host} (hport : arguments.port = port.text) (htimeout : HasTimeout arguments timeout)
    (hpayload : HasPayload host.store arguments payload)
    (hmessage : (intended clock arguments payload).encode = .ok message)
    (hopen : Transport.openSend host port (configured timeout) = (.ok transport, opened))
    (hsend : transport.send opened message = (.error error, later, after)) (format : Format) :
    run clock host arguments format = (.error (Exit.ofTransport "send failed" error), later) := by
  rw [run]
  rcases order_cases clock host arguments with
    ⟨other, span, bytes, wire, hother, hspan, hbytes, hwire, -, horder⟩ | ⟨stage, failure, hfirst, hearly, -⟩
  · obtain rfl := Port.text_injective (hport.symm.trans hother)
    obtain rfl := htimeout.unique hspan
    obtain rfl := hpayload.unique hbytes
    obtain rfl := Except.ok.inj (hmessage.symm.trans hwire)
    rw [horder]
    dsimp only
    rw [dispatch, hopen]
    dsimp only
    rw [hsend]
  · have hclear := (clear_three hport htimeout hpayload).succ rfl (not_fails_encoding hpayload hmessage)
    exact absurd hfirst.fails (hclear stage failure hearly)

/-- When port, timeout and payload are as they should be, a provider id that is too long or has a zero
byte in it and a payload that is too large to be counted end the program with the code for invalid data,
and all is as before. A payload that is only over the limit of a stream ends it with the code for internal
errors, and nothing is delivered. A stream keeps the code of a fault exactly if the fault is a failure of
the system; the code of all others is the one for internal errors. -/
theorem exit_codes_of_refused_frames (hparse : Invocation.parse environmentPort words = .ok invocation)
    (hcommand : invocation.command = .send arguments) (hport : arguments.port = port.text)
    (htimeout : HasTimeout arguments timeout)
    (hpayload : HasPayload around.host.store arguments payload) :
    let ended := Cli.run around environmentPort words
    (32 < (Text.utf8 arguments.peer).length ∨ 0 ∈ Text.utf8 arguments.peer ∨ 4294967295 < payload.length →
        ended.1.exit = 60 ∧ ended.1.output.stdout = [] ∧ ended.2 = around) ∧
      (∀ transport opened, (Text.utf8 arguments.peer).length ≤ 32 → 0 ∉ Text.utf8 arguments.peer →
        16777216 < payload.length → payload.length ≤ 4294967295 →
        port.backend? = some .file ∨ port.backend? = some .network →
        Transport.openSend around.host port (configured timeout) = (.ok transport, opened) →
        (∀ sender, transport = .network sender → ∃ made, sender.connect opened = .ok made) →
        ended.1.exit = 125 ∧ ended.1.output.stdout = [] ∧ Undelivered around.host ended.2.host) ∧
      ∀ (error : Frame.Error) (context target : String),
        let code := (Exit.ofTransport context (.send target (Transport.Error.ofFrame error))).code
        (code = (Exit.ofFrame context error).code ↔ ∃ source, error = .io source) ∧
          ((∀ source, error ≠ .io source) → code = 125) := by
  intro ended
  refine ⟨fun hrefused => ?_, ?_, fun error context target =>
    ⟨Exit.code_of_ofFrame_iff context target error, fun h => Exit.code_of_ofFrame h context target⟩⟩
  · have hencode : ∃ error, (intended around.clock arguments payload).encode = .error error := by
      cases hencode : (intended around.clock arguments payload).encode with
      | error error => exact ⟨error, rfl⟩
      | ok message =>
        obtain ⟨hshort, hnoNul, hcountable⟩ := (Frame.encode_eq_ok_iff.1 hencode).1
        rcases hrefused with hlong | hnul | hlarge
        · exact absurd hshort (Nat.not_le.2 hlong)
        · exact absurd hnul hnoNul
        · exact absurd hcountable (Nat.not_le.2 hlarge)
    obtain ⟨error, herror⟩ := hencode
    have hended : ended = _ :=
      run_of_send_failure hparse hcommand (run_of_encode_error hport htimeout hpayload herror _)
    rw [hended]
    exact ⟨Exit.code_of_encode_error herror _, rfl, rfl⟩
  · intro transport opened hshort hnoNul hlarge hcountable hstream hopen hreach
    obtain ⟨message, hmessage⟩ : ∃ message, (intended around.clock arguments payload).encode = .ok message :=
      ⟨_, Frame.encode_eq_ok_iff.2 ⟨⟨hshort, hnoNul, hcountable⟩, rfl⟩⟩
    have hsize : message.length = 48 + payload.length := Frame.length_of_encode hmessage
    have hover : (configured timeout).limit < message.length - Frame.headerSize := by
      rw [hsize, Frame.headerSize, Nat.add_sub_cancel_left]
      exact hlarge
    obtain ⟨target, later, after, hsend, hundelivered⟩ :=
      Transport.send_of_oversized hstream hopen hreach hover
    have hended : ended = _ := run_of_send_failure hparse hcommand
      (run_of_send_error hport htimeout hpayload hmessage hopen hsend _)
    rw [hended]
    exact ⟨rfl, rfl, hundelivered⟩

/-- A file of one byte more than a stream takes is sent to another file, and a frame with a provider id of
thirty-three bytes to a dump. -/
theorem exit_codes_of_refused_frames_of_two :
    let content : Bytes := List.replicate 16777217 0x61
    let store : Store :=
      { Store.initial with
        nodes := Store.initial.nodes.insert ["work", "big"] (.file 0)
        contents := Store.initial.contents.insert 0 content
        nextId := 1 }
    let around : Surroundings := { host := { Host.isolated with store } }
    let large := Cli.run around none ["send", "file:out", "--file", "big"]
    let long := Cli.run around none ["send", "dump:x", "--peer", "aaaaaaaaaaaaaaaaaaaaaaaaaaaaaaaaa"]
    (large.1.exit = 125 ∧ large.1.output.stdout = [] ∧ Undelivered around.host large.2.host) ∧
      long.1.exit = 60 ∧ long.1.output.stdout = [] ∧ long.2 = around := by
  intro content
  have hsize : content.length = 16777217 := List.length_replicate
  -- from here on only its length matters; sixteen million bytes are not to be unfolded
  clear_value content
  intro store around large long
  constructor
  · let arguments : SendArguments := { port := "file:out", file := some "big" }
    let port : Port := ⟨"file", "out", by decide, by decide, by decide⟩
    let sink : Sink.FileSink := ⟨"out", 16777216, .file 1⟩
    have hparse : Invocation.parse none ["send", "file:out", "--file", "big"]
        = .ok { command := .send arguments } := rfl
    have hbig : store.find .target "big" = .ok ⟨["work", "big"], some (.file 0), true, false⟩ :=
      Store.find_eq_ok_iff.2 ⟨rfl, Store.walk_last ⟨by decide, by decide, by decide⟩ rfl (by simp)⟩
    have hcontent : around.host.store.contentAt "big" = .ok content := by
      change store.contentAt "big" = _
      rw [Store.contentAt, Store.node_eq_ok_iff.2 ⟨_, hbig, rfl, by simp⟩]
      simp [store, Store.content]
    have hout : store.find .file "out" = .ok ⟨["work", "out"], none, true, false⟩ :=
      Store.find_eq_ok_iff.2 ⟨rfl, Store.walk_missing ⟨by decide, by decide, by decide⟩ rfl⟩
    have hopen : (Transport.openSend around.host port (configured none)).1 = .ok (.file sink) := by
      change ((Sink.FileSink.open around.host "out" 16777216).1.map Transport.file) = _
      rw [Sink.FileSink.open, Store.openAppend, hout]
      rfl
    obtain ⟨-, hlarge, -⟩ := exit_codes_of_refused_frames hparse rfl
      (show arguments.port = port.text from rfl) (.unlimited rfl) (.file rfl rfl hcontent)
    refine hlarge _ _ (by decide) (by decide) (by omega) (by omega) (.inl rfl) (Prod.ext hopen rfl) ?_
    rintro sender ⟨⟩
  · let arguments : SendArguments := { port := "dump:x", peer := "aaaaaaaaaaaaaaaaaaaaaaaaaaaaaaaaa" }
    let port : Port := ⟨"dump", "x", by decide, by decide, by decide⟩
    have hparse : Invocation.parse none
        ["send", "dump:x", "--peer", "aaaaaaaaaaaaaaaaaaaaaaaaaaaaaaaaa"]
        = .ok { command := .send arguments } := rfl
    have hnothing : HasPayload around.host.store arguments [] := .nothing rfl rfl
    exact (exit_codes_of_refused_frames hparse rfl (show arguments.port = port.text from rfl)
      (.unlimited rfl) hnothing).1 (.inl (by decide))

end Send

end Cli

end Courier
