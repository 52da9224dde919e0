import Courier.Cli.Program
import Courier.Proofs.Cli.Reports
import Courier.Proofs.Frame.RoundTrip
import Courier.Proofs.Port.Text
import Courier.Proofs.Transport.Handing

/-! # The stages of sending

Sending a frame from the command line takes six stages. Each can fail on its own account, whatever the
stages before it come to; the failure of the first one that does is reported, and before the port is
opened nothing has happened at all. If none fails, one message was handed to the port, and what is printed
tells of its frame.
-/

namespace Courier.Cli.Send

variable {clock : UInt64} {host : Host} {arguments : SendArguments} {format : Format}

inductive HasTimeout (arguments : SendArguments) : Option Span → Prop
  | unlimited (hnone : arguments.timeout = none) : HasTimeout arguments none
  | limited {text : String} {span : Span} (htext : arguments.timeout = some text)
      (hspan : parseTimeout text = .ok span) : HasTimeout arguments (some span)

/-- The payload that is asked for: the data, else the content of the file, else nothing. -/
inductive HasPayload (store : Store) (arguments : SendArguments) : Bytes → Prop
  | data {text : String} (htext : arguments.data = some text) : HasPayload store arguments (Text.utf8 text)
  | file {path : String} {content : Bytes} (hdata : arguments.data = none)
      (hpath : arguments.file = some path) (hcontent : store.contentAt path = .ok content) :
      HasPayload store arguments content
  | nothing (hdata : arguments.data = none) (hfile : arguments.file = none) : HasPayload store arguments []

def intended (clock : UInt64) (arguments : SendArguments) (payload : Bytes) : Frame where
  provider := arguments.peer
  answerId := arguments.answerId.getD (if arguments.kind = .segment then clock else 0)
  kind := arguments.kind
  payload := payload

def configured (timeout : Option Span) : StreamConfig := { writeTimeout := timeout }

theorem HasTimeout.unique {left right : Option Span} (hleft : HasTimeout arguments left)
    (hright : HasTimeout arguments right) : left = right := by
  cases hleft <;> cases hright <;> simp_all

theorem HasPayload.unique {store : Store} {left right : Bytes} (hleft : HasPayload store arguments left)
    (hright : HasPayload store arguments right) : left = right := by
  cases hleft <;> cases hright <;> simp_all

theorem answerId_eq (clock : UInt64) (arguments : SendArguments) :
    answerId clock arguments = arguments.answerId.getD (if arguments.kind = .segment then clock else 0) := by
  rw [answerId]
  cases arguments.answerId <;> rfl

inductive Stage where
  | port
  | timeout
  | payload
  | encoding
  | opening
  | sending
deriving DecidableEq

namespace Stage

def rank : Stage → Nat
  | port => 0
  | timeout => 1
  | payload => 2
  | encoding => 3
  | opening => 4
  | sending => 5

theorem rank_injective {left right : Stage} (h : left.rank = right.rank) : left = right := by
  cases left <;> cases right <;> first | rfl | cases h

end Stage

/-- A stage fails, given what it needs of the stages before it. -/
inductive Fails (clock : UInt64) (host : Host) (arguments : SendArguments) : Stage → Failure → Prop
  | port {fault : Port.Fault} (hport : Port.parse arguments.port = .error fault) :
      Fails clock host arguments .port
        (Exit.ofTransport "invalid port" (.invalidPort arguments.port fault))
  | timeout {text : String} {fault : TimeoutFault} (htext : arguments.timeout = some text)
      (hfault : parseTimeout text = .error fault) :
      Fails clock host arguments .timeout ⟨Exit.usage, fault.message⟩
  | payload {path : String} {error : IoError} (hdata : arguments.data = none)
      (hpath : arguments.file = some path) (herror : host.store.contentAt path = .error error) :
      Fails clock host arguments .payload (Exit.ofIo ("failed reading " ++ path) error)
  | encoding {payload : Bytes} {error : Frame.Error} (hpayload : HasPayload host.store arguments payload)
      (herror : (intended clock arguments payload).encode = .error error) :
      Fails clock host arguments .encoding (Exit.ofFrame "encode failed" error)
  | opening {port : Port} {timeout : Option Span} {error : Transport.Error} {opened : Host}
      (hport : arguments.port = port.text) (htimeout : HasTimeout arguments timeout)
      (hopen : Transport.openSend host port (configured timeout) = (.error error, opened)) :
      Fails clock host arguments .opening (Exit.ofTransport "open failed" error)
  | sending {port : Port} {timeout : Option Span} {payload message : Bytes} {transport after : Transport}
      {error : Transport.Error} {opened later : Host}
      (hport : arguments.port = port.text) (htimeout : HasTimeout arguments timeout)
      (hpayload : HasPayload host.store arguments payload)
      (hmessage : (intended clock arguments payload).encode = .ok message)
      (hopen : Transport.openSend host port (configured timeout) = (.ok transport, opened))
      (hsend : transport.send opened message = (.error error, later, after)) :
      Fails clock host arguments .sending (Exit.ofTransport "send failed" error)

structure FirstFailing (clock : UInt64) (host : Host) (arguments : SendArguments) (stage : Stage)
    (failure : Failure) : Prop where
  fails : Fails clock host arguments stage failure
  earlier : ∀ other found, other.rank < stage.rank → ¬ Fails clock host arguments other found

def Clear (clock : UInt64) (host : Host) (arguments : SendArguments) (count : Nat) : Prop :=
  ∀ stage failure, stage.rank < count → ¬ Fails clock host arguments stage failure

theorem clear_zero : Clear clock host arguments 0 := fun _ _ h => absurd h (Nat.not_lt_zero _)

theorem Clear.succ {count : Nat} (h : Clear clock host arguments count) {stage : Stage}
    (hrank : stage.rank = count) (hpass : ∀ failure, ¬ Fails clock host arguments stage failure) :
    Clear clock host arguments (count + 1) := by
  intro other failure hother
  rcases Nat.lt_succ_iff_lt_or_eq.1 hother with hearlier | hsame
  · exact h other failure hearlier
  · rw [Stage.rank_injective (hsame.trans hrank.symm)]
    exact hpass failure

theorem Fails.unique {stage : Stage} {left right : Failure} (hleft : Fails clock host arguments stage left)
    (hright : Fails clock host arguments stage right) : left = right := by
  cases hleft with
  | port hport =>
    cases hright with
    | port hother => rw [Except.error.inj (hport.symm.trans hother)]
  | timeout htext hfault =>
    cases hright with
    | timeout hother herror =>
      obtain rfl := Option.some.inj (htext.symm.trans hother)
      rw [Except.error.inj (hfault.symm.trans herror)]
  | payload hdata hpath herror =>
    cases hright with
    | payload _ hother hfault =>
      obtain rfl := Option.some.inj (hpath.symm.trans hother)
      rw [Except.error.inj (herror.symm.trans hfault)]
  | encoding hpayload herror =>
    cases hright with
    | encoding hother hfault =>
      obtain rfl := hpayload.unique hother
      rw [Except.error.inj (herror.symm.trans hfault)]
  | opening hport htimeout hopen =>
    cases hright with
    | opening hother hspan hfault =>
      obtain rfl := Port.text_injective (hport.symm.trans hother)
      obtain rfl := htimeout.unique hspan
      rw [Except.error.inj (Prod.mk.inj (hopen.symm.trans hfault)).1]
  | sending hport htimeout hpayload hmessage hopen hsend =>
    cases hright with
    | sending hother hspan hbytes hwire hopened hfault =>
      obtain rfl := Port.text_injective (hport.symm.trans hother)
      obtain rfl := htimeout.unique hspan
      obtain rfl := hpayload.unique hbytes
      obtain rfl := Except.ok.inj (hmessage.symm.trans hwire)
      obtain ⟨htransport, rfl⟩ := Prod.mk.inj (hopen.symm.trans hopened)
      obtain rfl := Except.ok.inj htransport
      rw [Except.error.inj (Prod.mk.inj (hsend.symm.trans hfault)).1]

theorem FirstFailing.unique {left right : Stage} {failure other : Failure}
    (hleft : FirstFailing clock host arguments left failure)
    (hright : FirstFailing clock host arguments right other) : left = right ∧ failure = other := by
  have hsame : left = right := by
    apply Stage.rank_injective
    rcases Nat.lt_trichotomy left.rank right.rank with hlt | heq | hgt
    · exact absurd hleft.fails (hright.earlier _ _ hlt)
    · exact heq
    · exact absurd hright.fails (hleft.earlier _ _ hgt)
  subst hsame
  exact ⟨rfl, hleft.fails.unique hright.fails⟩

theorem not_fails_port {port : Port} (h : arguments.port = port.text) (failure : Failure) :
    ¬ Fails clock host arguments .port failure := by
  rintro ⟨hport⟩
  cases (Port.parse_eq_ok_iff.2 h).symm.trans hport

theorem not_fails_timeout {timeout : Option Span} (h : HasTimeout arguments timeout) (failure : Failure) :
    ¬ Fails clock host arguments .timeout failure := by
  rintro (_ | ⟨htext, hfault⟩)
  cases h with
  | unlimited hnone => cases hnone.symm.trans htext
  | limited hother hspan =>
    obtain rfl := Option.some.inj (hother.symm.trans htext)
    cases hspan.symm.trans hfault

theorem not_fails_payload {payload : Bytes} (h : HasPayload host.store arguments payload)
    (failure : Failure) : ¬ Fails clock host arguments .payload failure := by
  rintro (_ | _ | ⟨hdata, hpath, herror⟩)
  cases h with
  | data htext => cases htext.symm.trans hdata
  | file _ hother hcontent =>
    obtain rfl := Option.some.inj (hother.symm.trans hpath)
    cases hcontent.symm.trans herror
  | nothing _ hfile => cases hfile.symm.trans hpath

theorem not_fails_encoding {payload message : Bytes} (h : HasPayload host.store arguments payload)
    (hmessage : (intended clock arguments payload).encode = .ok message) (failure : Failure) :
    ¬ Fails clock host arguments .encoding failure := by
  rintro (_ | _ | _ | ⟨hpayload, herror⟩)
  obtain rfl := h.unique hpayload
  cases hmessage.symm.trans herror

theorem not_fails_opening {port : Port} {timeout : Option Span} {transport : Transport} {opened : Host}
    (hport : arguments.port = port.text) (htimeout : HasTimeout arguments timeout)
    (hopen : Transport.openSend host port (configured timeout) = (.ok transport, opened))
    (failure : Failure) : ¬ Fails clock host arguments .opening failure := by
  rintro (_ | _ | _ | _ | ⟨hother, hspan, hrefused⟩)
  obtain rfl := Port.text_injective (hport.symm.trans hother)
  obtain rfl := htimeout.unique hspan
  cases (Prod.mk.inj (hopen.symm.trans hrefused)).1

theorem not_fails_sending {port : Port} {timeout : Option Span} {payload message : Bytes}
    {transport after : Transport} {opened later : Host} (hport : arguments.port = port.text)
    (htimeout : HasTimeout arguments timeout) (hpayload : HasPayload host.store arguments payload)
    (hmessage : (intended clock arguments payload).encode = .ok message)
    (hopen : Transport.openSend host port (configured timeout) = (.ok transport, opened))
    (hsend : transport.send opened message = (.ok (), later, after)) (failure : Failure) :
    ¬ Fails clock host arguments .sending failure := by
  rintro (_ | _ | _ | _ | _ | ⟨hother, hspan, hbytes, hwire, hopened, hrefused⟩)
  obtain rfl := Port.text_injective (hport.symm.trans hother)
  obtain rfl := htimeout.unique hspan
  obtain rfl := hpayload.unique hbytes
  obtain rfl := Except.ok.inj (hmessage.symm.trans hwire)
  obtain ⟨htransport, rfl⟩ := Prod.mk.inj (hopen.symm.trans hopened)
  obtain rfl := Except.ok.inj htransport
  cases (Prod.mk.inj (hsend.symm.trans hrefused)).1

theorem config_cases (arguments : SendArguments) :
    (∃ timeout, HasTimeout arguments timeout ∧ config arguments = .ok (configured timeout)) ∨
      ∃ text fault, arguments.timeout = some text ∧ parseTimeout text = .error fault ∧
        config arguments = .error ⟨Exit.usage, fault.message⟩ := by
  rw [config]
  cases htext : arguments.timeout with
  | none => exact .inl ⟨none, .unlimited htext, rfl⟩
  | some text =>
    dsimp only
    cases hspan : parseTimeout text with
    | error fault => exact .inr ⟨text, fault, rfl, hspan, rfl⟩
    | ok span => exact .inl ⟨some span, .limited htext hspan, rfl⟩

theorem payload_cases (store : Store) (arguments : SendArguments) :
    (∃ bytes, HasPayload store arguments bytes ∧ payload store arguments = .ok bytes) ∨
      ∃ path error, arguments.data = none ∧ arguments.file = some path ∧
        store.contentAt path = .error error ∧
          payload store arguments = .error (Exit.ofIo ("failed reading " ++ path) error) := by
  rw [payload]
  cases hdata : arguments.data with
  | some text => exact .inl ⟨_, .data hdata, rfl⟩
  | none =>
    cases hfile : arguments.file with
    | none => exact .inl ⟨_, .nothing hdata hfile, rfl⟩
    | some path =>
      dsimp only
      cases hcontent : store.contentAt path with
      | error error => exact .inr ⟨path, error, rfl, rfl, hcontent, rfl⟩
      | ok content => exact .inl ⟨content, .file hdata hfile hcontent, rfl⟩

/-- The order is what the first four stages give, or the failure of the first of them that fails. -/
theorem order_cases (clock : UInt64) (host : Host) (arguments : SendArguments) :
    (∃ port timeout payload message, arguments.port = port.text ∧ HasTimeout arguments timeout ∧
        HasPayload host.store arguments payload ∧
        (intended clock arguments payload).encode = .ok message ∧ Clear clock host arguments 4 ∧
        order clock host.store arguments
          = .ok ⟨port, configured timeout, intended clock arguments payload, message⟩) ∨
      ∃ stage failure, FirstFailing clock host arguments stage failure ∧ stage.rank < 4 ∧
        order clock host.store arguments = .error failure := by
  rw [order, Transport.readPort, answerId_eq]
  cases hport : Port.parse arguments.port with
  | error fault => exact .inr ⟨.port, _, ⟨.port hport, clear_zero⟩, by decide, rfl⟩
  | ok port =>
    have htext := Port.parse_eq_ok_iff.1 hport
    have hone : Clear clock host arguments 1 := clear_zero.succ rfl (not_fails_port htext)
    rcases config_cases arguments with ⟨timeout, htimeout, hconfig⟩ | ⟨text, fault, hgiven, hfault, hconfig⟩
    · have htwo : Clear clock host arguments 2 := hone.succ rfl (not_fails_timeout htimeout)
      rw [hconfig]
      rcases payload_cases host.store arguments with
        ⟨bytes, hpayload, hbytes⟩ | ⟨path, error, hdata, hpath, herror, hbytes⟩
      · have hthree : Clear clock host arguments 3 := htwo.succ rfl (not_fails_payload hpayload)
        rw [hbytes]
        cases hencode : (intended clock arguments bytes).encode with
        | error error =>
          refine .inr ⟨.encoding, _, ⟨.encoding hpayload hencode, hthree⟩, by decide, ?_⟩
          rw [intended] at hencode
          simp [hencode, Except.mapError, bind, Except.bind]
        | ok message =>
          refine .inl ⟨port, timeout, bytes, message, htext, htimeout, hpayload, hencode,
            hthree.succ rfl (not_fails_encoding hpayload hencode), ?_⟩
          rw [intended] at hencode
          simp [hencode, Except.mapError, bind, Except.bind, intended, pure, Except.pure]
      · rw [hbytes]
        exact .inr ⟨.payload, _, ⟨.payload hdata hpath herror, htwo⟩, by decide, rfl⟩
    · rw [hconfig]
      exact .inr ⟨.timeout, _, ⟨.timeout hgiven hfault, hone⟩, by decide, rfl⟩

/-- One message was handed to the port of the arguments: it is decoded to the frame that they ask for, which
is what is printed. -/
structure Sent (clock : UInt64) (host : Host) (arguments : SendArguments) (format : Format) (later : Host)
    (output : Output) (port : Port) (payload message : Bytes) (transport : Transport) : Prop where
  isPort : arguments.port = port.text
  isPayload : HasPayload host.store arguments payload
  decoded : Frame.decode message = .ok (intended clock arguments payload).view
  handed : Transport.Handed host port message transport later
  printed : Printed arguments.port transport.name (intended clock arguments payload) format output.stdout
  silent : output.stderr = []

theorem run_cases (clock : UInt64) (host : Host) (arguments : SendArguments) (format : Format) :
    (∃ output later port payload message transport,
        run clock host arguments format = (.ok output, later) ∧ Clear clock host arguments 6 ∧
          Sent clock host arguments format later output port payload message transport) ∨
      ∃ stage failure later, run clock host arguments format = (.error failure, later) ∧
        FirstFailing clock host arguments stage failure ∧ (stage.rank < 4 → later = host) := by
  rw [run]
  rcases order_cases clock host arguments with
    ⟨port, timeout, payload, message, hport, htimeout, hpayload, hmessage, hclear, horder⟩ |
      ⟨stage, failure, hfirst, hearly, horder⟩
  · rw [horder]
    dsimp only
    rw [dispatch]
    rcases hopen : Transport.openSend host port (configured timeout) with ⟨error | transport, opened⟩
    · exact .inr ⟨.opening, _, opened, rfl, ⟨.opening hport htimeout hopen, hclear⟩,
        fun h => absurd h (by decide)⟩
    · have hfive := hclear.succ rfl (not_fails_opening hport htimeout hopen)
      dsimp only
      rcases hsend : transport.send opened message with ⟨error | _, later, after⟩
      · exact .inr ⟨.sending, _, later, rfl,
          ⟨.sending hport htimeout hpayload hmessage hopen hsend, hfive⟩, fun h => absurd h (by decide)⟩
      · refine .inl ⟨_, later, port, payload, message, after, rfl,
          hfive.succ rfl (not_fails_sending hport htimeout hpayload hmessage hopen hsend), hport, hpayload,
          Frame.decode_of_encode hmessage, Transport.handed_of_send hopen hsend, ?_, rfl⟩
        have hreport : report ⟨port, configured timeout, intended clock arguments payload, message⟩ after
            = told arguments.port after.name (intended clock arguments payload) := by
          rw [report, told, hport, Frame.length_of_encode hmessage]
          rfl
        rw [hreport]
        exact printed_told arguments.port after.name (intended clock arguments payload) format
  · rw [horder]
    exact .inr ⟨stage, failure, host, rfl, hfirst, fun _ => rfl⟩

/-- Sending succeeds exactly if no stage fails, and then one message was handed to the port and its frame
is what is printed. Otherwise the failure is that of the first stage that fails, nothing is printed, and if
that stage comes before the port is opened, the host is as it was. -/
theorem one_message_or_the_first_failure (clock : UInt64) (host : Host) (arguments : SendArguments)
    (format : Format) :
    let ended := run clock host arguments format
    ((∃ output, ended.1 = .ok output) ↔ ∀ stage failure, ¬ Fails clock host arguments stage failure) ∧
      (∀ output, ended.1 = .ok output → ∃ port payload message transport,
        Sent clock host arguments format ended.2 output port payload message transport) ∧
      (∀ failure, ended.1 = .error failure ↔
        ∃ stage, FirstFailing clock host arguments stage failure) ∧
      (∀ stage failure, FirstFailing clock host arguments stage failure → stage.rank < 4 →
        ended.2 = host) ∧
      ∀ failure, ended.1 = .error failure → ∀ environmentPort words invocation,
        Invocation.parse environmentPort words = .ok invocation →
        invocation.command = .send arguments → invocation.format.getD defaultFormat = format →
        ∀ around : Surroundings, around.clock = clock → around.host = host →
          Cli.run around environmentPort words
            = (⟨failure.code, { stdout := [], stderr := line failure.line }⟩,
              { around with host := ended.2 }) := by
  intro ended
  have hprinted : ∀ failure, ended.1 = .error failure → ∀ environmentPort words invocation,
      Invocation.parse environmentPort words = .ok invocation →
      invocation.command = .send arguments → invocation.format.getD defaultFormat = format →
      ∀ around : Surroundings, around.clock = clock → around.host = host →
        Cli.run around environmentPort words
          = (⟨failure.code, { stdout := [], stderr := line failure.line }⟩,
            { around with host := ended.2 }) := by
    rintro failure hfailure environmentPort words invocation hparse hcommand rfl around rfl rfl
    simp only [Cli.run, hparse, perform, hcommand]
    rw [show run around.clock around.host arguments (invocation.format.getD defaultFormat)
      = (.error failure, ended.2) from Prod.ext hfailure rfl]
    rfl
  rcases run_cases clock host arguments format with
    ⟨output, later, port, payload, message, transport, hrun, hclear, hsent⟩ |
      ⟨stage, failure, later, hrun, hfirst, hearly⟩
  · have hended : ended = (.ok output, later) := hrun
    have hnone (stage : Stage) (failure : Failure) : ¬ Fails clock host arguments stage failure :=
      hclear stage failure (by cases stage <;> decide)
    rw [hended] at hprinted ⊢
    refine ⟨⟨fun _ => hnone, fun _ => ⟨output, rfl⟩⟩, ?_, ?_, ?_, hprinted⟩
    · rintro _ ⟨⟩
      exact ⟨port, payload, message, transport, hsent⟩
    · intro failure
      refine ⟨nofun, ?_⟩
      rintro ⟨stage, hfirst⟩
      exact absurd hfirst.fails (hnone stage failure)
    · intro stage failure hfirst
      exact absurd hfirst.fails (hnone stage failure)
  · have hended : ended = (.error failure, later) := hrun
    rw [hended] at hprinted ⊢
    refine ⟨⟨nofun, fun hnone => absurd hfirst.fails (hnone stage failure)⟩, nofun, ?_, ?_, hprinted⟩
    · intro other
      constructor
      · rintro ⟨⟩
        exact ⟨stage, hfirst⟩
      · rintro ⟨found, hother⟩
        rw [(hfirst.unique hother).2]
    · intro found other hother hfour
      obtain ⟨rfl, -⟩ := hfirst.unique hother
      exact hearly hfour

/-- A segment that is sent, and arguments with a wrong timeout and a file that is missing. -/
theorem one_message_or_the_first_failure_of_two :
    let target : Port := ⟨"dump", "x", by decide, by decide, by decide⟩
    let fine : SendArguments := { port := "dump:x", kind := .segment, peer := "a", data := some "hi" }
    let wrong : SendArguments := { port := "dump:x", timeout := some "0s", file := some "missing" }
    let object := "\x7b\"port\":\"dump:x\",\"transport\":\"dump-sink\",\"kind\":\"SEGMENT\",\"provider_id\":\"a\","
      ++ "\"answer_id\":7,\"payload_size\":2,\"frame_size\":50\x7d"
    run 7 Host.isolated fine .json = (.ok { stdout := Text.utf8 object ++ [10] }, Host.isolated) ∧
      (∃ message transport fields, Frame.decode message = .ok (Frame.view ⟨"a", 7, .segment, [0x68, 0x69]⟩) ∧
        Transport.Handed Host.isolated target message transport Host.isolated ∧
        Text.Json.readObject? object = some fields ∧
        Reports "dump:x" transport.name ⟨"a", 7, .segment, [0x68, 0x69]⟩ fields) ∧
      FirstFailing 7 Host.isolated wrong .timeout ⟨64, "duration must be greater than zero"⟩ ∧
      (run 7 Host.isolated wrong .raw).1 = .error ⟨64, "duration must be greater than zero"⟩ := by
  intro target fine wrong object
  have hzero : parseTimeout "0s" = .error .zero := by decide +kernel
  have hport : wrong.port = target.text := rfl
  have hdata : HasPayload Host.isolated.store fine (Text.utf8 "hi") := .data rfl
  have hfirst : FirstFailing 7 Host.isolated wrong .timeout ⟨64, "duration must be greater than zero"⟩ :=
    ⟨.timeout rfl hzero, clear_zero.succ rfl (not_fails_port hport)⟩
  have hrun : run 7 Host.isolated fine .json
      = (.ok { stdout := Text.utf8 object ++ [10] }, Host.isolated) := by
    dsimp only [fine]
    rfl
  refine ⟨hrun, ?_, hfirst, ?_⟩
  · obtain ⟨-, hsent, -⟩ := one_message_or_the_first_failure 7 Host.isolated fine .json
    rw [hrun] at hsent
    obtain ⟨port, payload, message, transport, h⟩ := hsent _ rfl
    obtain rfl : port = target := Port.text_injective h.isPort.symm
    obtain rfl := h.isPayload.unique hdata
    obtain ⟨fields, hread, hreports⟩ := h.printed.readObject?
    exact ⟨message, transport, fields, h.decoded, h.handed, hread, hreports⟩
  · obtain ⟨-, -, hfailed, -⟩ := one_message_or_the_first_failure 7 Host.isolated wrong .raw
    exact (hfailed _).2 ⟨.timeout, hfirst⟩

end Courier.Cli.Send
