import Courier.Proofs.Carrier.History
import Courier.Proofs.Frame.Limits
import Courier.Proofs.Sink.Room

/-! # What sends leave behind

A carrier sends letters one after another to a destination that keeps them. A letter without a wire form is
refused before it gets there, so a dump sink counts the letters that were accepted and keeps the last of them
(`sendAll_dump`). A file has a limit and its storage besides, and grows by the letters that were accepted
(`sendAll_file`).
-/

namespace Courier

open Courier.Frame (Admissible)
open Courier.Sink (DumpSink FileSink)

namespace Carrier

open Reception (Letter)

variable {host : Host} {carrier : Carrier} {transport : Transport}

/-- A frame without a wire form does not get to the transport. -/
theorem sends_or_refuses (h : carrier.transport = some transport) (host : Host) (frame : Frame) :
    (¬ frame.Encodable ∧ carrier.send host frame = (false, host, carrier)) ∨
      ∃ wire, frame.encode = .ok wire ∧ carrier.send host frame = ((transport.send host wire).1.isOk,
        (transport.send host wire).2.1, { carrier with transport := some (transport.send host wire).2.2 }) := by
  rw [send, h]
  cases hencode : frame.encode with
  | error error =>
    refine .inl ⟨fun hframe => ?_, rfl⟩
    rw [Frame.encode_eq_ok_iff.2 ⟨hframe, rfl⟩] at hencode
    cases hencode
  | ok wire => exact .inr ⟨wire, rfl, rfl⟩

theorem sendLetter_dump {sink : DumpSink} (h : carrier.transport = some (.dump sink)) (host : Host)
    (letter : Letter) :
    (¬ letter.frame.Encodable ∧ carrier.sendLetter host letter = (false, host, carrier)) ∨
      ∃ wire, letter.frame.encode = .ok wire ∧ carrier.sendLetter host letter
        = (true, host, { carrier with transport := some (.dump (sink.send wire)) }) := by
  rw [sendLetter_eq]
  exact sends_or_refuses h host letter.frame

/-- A letter with a wire form is added to the file of a sink if the sink accepts it, and otherwise no file
changes. -/
theorem sendLetter_file {sink : FileSink} (h : carrier.transport = some (.file sink)) (host : Host)
    (letter : Letter) : ∃ answer later, carrier.sendLetter host letter = (answer, later, carrier) ∧
      (answer = true ↔ Admissible sink.limit letter.frame ∧ sink.HasRoom host letter.frame.wireSize) ∧
      ((answer = false ∧ ∀ file, later.store.content file = host.store.content file) ∨
        answer = true ∧ ∃ wire, letter.frame.encode = .ok wire ∧ ∀ file, later.store.content file
          = host.store.content file ++ if sink.target = .file file then wire else []) := by
  rw [sendLetter_eq]
  rcases sends_or_refuses h host letter.frame with ⟨hrefused, hsend⟩ | ⟨wire, hwire, hsend⟩
  · refine ⟨false, host, hsend, iff_of_false nofun fun hadmissible => ?_, .inl ⟨rfl, fun _ => rfl⟩⟩
    exact hrefused hadmissible.1.toEncodable
  · obtain ⟨hframe, -⟩ := Frame.encode_eq_ok_iff.1 hwire
    have hcarrier : { carrier with transport := some (.file sink) } = carrier := by
      rw [← h]
    have haccepts : (sink.send host wire).1.isOk = true ↔ letter.frame.payload.length ≤ sink.limit ∧
        sink.HasRoom host letter.frame.wireSize := FileSink.isOk_send_iff hwire
    have hcontent := FileSink.content_sendUnder (sink.outlook host) [] host sink wire
    refine ⟨(sink.send host wire).1.isOk, (sink.send host wire).2, ?_, ?_, ?_⟩
    · rw [hsend]
      exact congrArg (fun same => (_, _, same)) hcarrier
    · exact haccepts.trans ⟨fun hin => ⟨⟨hframe, hin.1⟩, hin.2⟩, fun hin => ⟨hin.1.within, hin.2⟩⟩
    · cases hanswer : (sink.send host wire).1.isOk with
      | false =>
        refine .inl ⟨rfl, fun file => (hcontent file).trans ?_⟩
        rw [if_neg fun hin => Bool.false_ne_true (hanswer.symm.trans hin.2), List.append_nil]
      | true =>
        refine .inr ⟨rfl, wire, hwire, fun file => (hcontent file).trans ?_⟩
        simp only [show (sink.sendUnder (sink.outlook host) [] host wire).1.isOk = true from hanswer, and_true]

structure Sent where
  letter : Letter
  host : Host
  answer : Bool
  later : Host

def sendAll (host : Host) (carrier : Carrier) : List Letter → List Sent × Host × Carrier
  | [] => ([], host, carrier)
  | letter :: letters =>
    let (answer, later, next) := carrier.sendLetter host letter
    let (others, last) := sendAll later next letters
    (⟨letter, host, answer, later⟩ :: others, last)

def accepted (sends : List Sent) : List Letter := (sends.filter (·.answer)).map Sent.letter

theorem sendAll_cons {letter : Letter} {answer : Bool} {later : Host} {next : Carrier}
    (h : carrier.sendLetter host letter = (answer, later, next)) (letters : List Letter) :
    carrier.sendAll host (letter :: letters)
      = (⟨letter, host, answer, later⟩ :: (next.sendAll later letters).1, (next.sendAll later letters).2) := by
  rw [sendAll, h]

theorem letters_sendAll (host : Host) (carrier : Carrier) (letters : List Letter) :
    (carrier.sendAll host letters).1.map Sent.letter = letters := by
  induction letters generalizing host carrier with
  | nil => rfl
  | cons letter letters ih => exact congrArg (letter :: ·) (ih _ _)

/-- What is left of letters by a dump sink: their number and the last one. -/
structure Dumped (sink last : DumpSink) (letters : List Letter) : Prop where
  sent : last.sent = sink.sent + letters.length
  last : last.last.map Frame.decode
    = (letters.getLast?.map fun letter => .ok letter.frame.view).or (sink.last.map Frame.decode)

theorem Dumped.cons {sink last : DumpSink} {letter : Letter} {letters : List Letter} {wire : Bytes}
    (hwire : letter.frame.encode = .ok wire) (h : Dumped (sink.send wire) last letters) :
    Dumped sink last (letter :: letters) where
  sent := by
    rw [h.sent, List.length_cons]
    exact Nat.add_right_comm sink.sent 1 letters.length
  last := by
    rw [h.last, List.getLast?_cons]
    cases letters.getLast? with
    | none => simp [DumpSink.send, Frame.decode_of_encode hwire]
    | some other => rfl

theorem sendAll_dump (host : Host) (carrier : Carrier) (sink : DumpSink) (letters : List Letter) :
    let run := ({ carrier with transport := some (.dump sink) } : Carrier).sendAll host letters
    (∀ sent ∈ run.1, sent.answer = true ↔ sent.letter.frame.Encodable) ∧
      ∃ last, run.2 = (host, { carrier with transport := some (.dump last) }) ∧
        Dumped sink last (accepted run.1) := by
  induction letters generalizing sink with
  | nil => exact ⟨fun _ h => absurd h List.not_mem_nil, sink, rfl, rfl, rfl⟩
  | cons letter letters ih =>
    have hconnected : ({ carrier with transport := some (.dump sink) } : Carrier).transport
        = some (.dump sink) := rfl
    rcases sendLetter_dump hconnected host letter with
      ⟨hrefused, hsend⟩ | ⟨wire, hwire, hsend⟩
    · obtain ⟨hanswers, hlast⟩ := ih sink
      rw [sendAll_cons hsend]
      exact ⟨List.forall_mem_cons.2 ⟨iff_of_false nofun hrefused, hanswers⟩, hlast⟩
    · obtain ⟨hanswers, last, hlast, hdumped⟩ := ih (sink.send wire)
      obtain ⟨hframe, -⟩ := Frame.encode_eq_ok_iff.1 hwire
      rw [sendAll_cons hsend]
      exact ⟨List.forall_mem_cons.2 ⟨iff_of_true rfl hframe, hanswers⟩, last, hlast, hdumped.cons hwire⟩

/-- What is known of a letter that was sent to a file: it is accepted if the sink admits it and the storage has
room for it, and otherwise no file changes. -/
structure Sent.Filed (sink : FileSink) (sent : Sent) : Prop where
  accepted : sent.answer = true ↔
    Admissible sink.limit sent.letter.frame ∧ sink.HasRoom sent.host sent.letter.frame.wireSize
  refused : sent.answer = false → ∀ file, sent.later.store.content file = sent.host.store.content file

theorem sendAll_file {sink : FileSink} (h : carrier.transport = some (.file sink)) (host : Host)
    (letters : List Letter) :
    let run := carrier.sendAll host letters
    (∀ sent ∈ run.1, sent.Filed sink) ∧ run.2.2 = carrier ∧
      ∃ wires, List.Forall₂ (fun wire letter => letter.frame.encode = .ok wire) wires (accepted run.1) ∧
        ∀ file, run.2.1.store.content file
          = host.store.content file ++ if sink.target = .file file then wires.flatten else [] := by
  induction letters generalizing host with
  | nil => exact ⟨fun _ h => absurd h List.not_mem_nil, rfl, [], .nil, fun file => by simp [sendAll]⟩
  | cons letter letters ih =>
    obtain ⟨answer, later, hsend, haccepts, hcontent⟩ := sendLetter_file h host letter
    obtain ⟨hfiled, hsame, wires, hwires, hlater⟩ := ih later
    rw [sendAll_cons hsend]
    rcases hcontent with ⟨rfl, hkept⟩ | ⟨rfl, wire, hwire, hgrown⟩
    · refine ⟨List.forall_mem_cons.2 ⟨⟨haccepts, fun _ => hkept⟩, hfiled⟩, hsame, wires, hwires, fun file => ?_⟩
      rw [hlater, hkept]
    · refine ⟨List.forall_mem_cons.2 ⟨⟨haccepts, nofun⟩, hfiled⟩, hsame, wire :: wires, .cons hwire hwires,
        fun file => ?_⟩
      rw [hlater, hgrown]
      by_cases htarget : sink.target = .file file
      · simp [htarget]
      · simp [htarget]

theorem establish_eq {port : Port} {transport : Transport} {later : Host}
    (hopen : Transport.openSend host port carrier.config = (.ok transport, later)) :
    carrier.establish host port.text
      = (true, later, { carrier with port := some port, transport := some transport }) := by
  rw [establish, Port.parse_eq_ok_iff.2 rfl]
  dsimp only
  rw [hopen]

/-- A carrier connected to a dump sink accepts the letters that have a wire form, whatever limit it is set to; the
sink counts the letters accepted since the connection, and what it holds is the last of them, or nothing
before the first. Connected to a file, a carrier accepts those within its limit that the storage has room for,
and the file grows by the wire forms of the accepted ones. A letter that is refused leaves no trace at either. -/
theorem only_accepted_letters_are_kept (host : Host) (carrier : Carrier) (port : Port)
    (letters : List Letter) :
    (port.backend? = some .dump →
      let connected : Carrier := { carrier with port := some port, transport := some (.dump {}) }
      let run := connected.sendAll host letters
      carrier.establish host port.text = (true, host, connected) ∧
        run.1.map Sent.letter = letters ∧
        (∀ sent ∈ run.1, sent.answer = true ↔ sent.letter.frame.Encodable) ∧
        ∃ sink : DumpSink, run.2 = (host, { connected with transport := some (.dump sink) }) ∧
          sink.sent = (accepted run.1).length ∧
          sink.last.map Frame.decode
            = (accepted run.1).getLast?.map fun letter => .ok letter.frame.view) ∧
    (port.backend? = some .file → ∀ store target,
      host.store.openAppend port.address = .ok (store, target) →
      let sink : FileSink := ⟨port.address, carrier.config.limit, target⟩
      let connected : Carrier := { carrier with port := some port, transport := some (.file sink) }
      let run := connected.sendAll { host with store } letters
      carrier.establish host port.text = (true, { host with store }, connected) ∧
        run.1.map Sent.letter = letters ∧ run.2.2 = connected ∧
        (∀ sent ∈ run.1, sent.Filed sink) ∧
        ∃ wires, List.Forall₂ (fun wire letter => letter.frame.encode = .ok wire) wires (accepted run.1) ∧
          ∀ file, run.2.1.store.content file
            = store.content file ++ if target = .file file then wires.flatten else []) := by
  refine ⟨fun hbackend => ?_, fun hbackend store target hopened => ?_⟩
  · intro connected run
    have hopen : Transport.openSend host port carrier.config = (.ok (.dump {}), host) := by
      rw [Transport.openSend, hbackend]
    obtain ⟨hanswers, sink, hlast, hdumped⟩ := sendAll_dump host connected {} letters
    refine ⟨establish_eq hopen, letters_sendAll _ _ _, hanswers, sink, hlast, ?_, ?_⟩
    · exact hdumped.sent.trans (Nat.zero_add _)
    · exact hdumped.last.trans Option.or_none
  · intro sink connected run
    have hopen : Transport.openSend host port carrier.config = (.ok (.file sink), { host with store }) := by
      rw [Transport.openSend, hbackend]
      simp only [FileSink.open, hopened]
      rfl
    have hconnected : connected.transport = some (.file sink) := rfl
    obtain ⟨hfiled, hsame, hwires⟩ := sendAll_file hconnected { host with store } letters
    exact ⟨establish_eq hopen, letters_sendAll _ _ _, hsame, hfiled, hwires⟩

/-- The limit of the carrier keeps the segment out of the file alone, which has no room for the fourth letter; the
provider id of the last one fits no header. -/
theorem five_letters_to_a_dump_and_a_file :
    let host : Host := { Host.isolated with sizeLimit := some 100 }
    let letters : List Letter := [.log "a" "hi", .segment "b" 7 [1, 2, 3], .command "c" "", .log "d" "xy",
      .yaml "a\x00" "no"]
    let dump : Port := ⟨"dump", "x", by decide, by decide, by decide⟩
    let file : Port := ⟨"file", "/log", by decide, by decide, by decide⟩
    let store : Store := { Store.initial.setNode ["log"] (.file 0) with
      contents := Store.initial.contents.insert 0 [], nextId := 1 }
    let carrier : Carrier := { config := { limit := 2 } }
    let dumped := sendAll host { carrier with port := some dump, transport := some (.dump {}) } letters
    let filed := sendAll { host with store }
      { carrier with port := some file, transport := some (.file ⟨"/log", 2, .file 0⟩) } letters
    dump.backend? = some .dump ∧ file.backend? = some .file ∧
      host.store.openAppend file.address = .ok (store, .file 0) ∧
      dumped.1.map Sent.answer = [true, true, true, true, false] ∧
      (∃ sink : DumpSink, dumped.2.2.transport = some (.dump sink) ∧ sink.sent = 4 ∧
        sink.last.map Frame.decode = some (.ok ⟨"d", 0, some .log, Text.utf8 "xy"⟩)) ∧
      filed.1.map Sent.answer = [true, false, true, false, false] ∧
      ∃ first second, (Letter.log "a" "hi").frame.encode = .ok first ∧
        (Letter.command "c" "").frame.encode = .ok second ∧
        filed.2.1.store.content 0 = first ++ second := by
  intro host letters dump file store carrier dumped filed
  have hdump : dump.backend? = some .dump := rfl
  have hfile : file.backend? = some .file := rfl
  have hfind : host.store.find .file "/log" = .ok ⟨["log"], none, true, false⟩ := by
    refine Store.find_eq_ok_iff.2 ⟨rfl, ?_⟩
    change host.store.walk .file Store.linkLimit [] false ["log"] = _
    rw [Store.walk, if_neg (by decide), if_neg (by decide), if_neg (by decide), if_neg (by decide)]
    rfl
  have hopened : host.store.openAppend file.address = .ok (store, .file 0) := by
    rw [Store.openAppend, hfind]
    rfl
  obtain ⟨-, -, -, sink, hlast, hsent, hkept⟩ :=
    (only_accepted_letters_are_kept host carrier dump letters).1 hdump
  have hdumped : accepted dumped.1 = letters.take 4 := rfl
  change sink.sent = (accepted dumped.1).length at hsent
  change _ = (accepted dumped.1).getLast?.map _ at hkept
  rw [hdumped] at hsent hkept
  obtain ⟨-, -, -, -, wires, hwires, hcontent⟩ :=
    (only_accepted_letters_are_kept host carrier file letters).2 hfile store _ hopened
  have hfiled : accepted filed.1 = [.log "a" "hi", .command "c" ""] := rfl
  change List.Forall₂ _ wires (accepted filed.1) at hwires
  rw [hfiled] at hwires
  obtain ⟨first, rest, hfirst, hrest, hall⟩ := List.forall₂_cons_right_iff.1 hwires
  obtain ⟨second, none, hsecond, hnone, hlater⟩ := List.forall₂_cons_right_iff.1 hrest
  rw [List.forall₂_nil_right_iff.1 hnone] at hlater
  refine ⟨hdump, hfile, hopened, rfl, ⟨sink, congrArg (·.2.transport) hlast, hsent, hkept⟩, rfl,
    first, second, hfirst, hsecond, ?_⟩
  refine (hcontent 0).trans ?_
  rw [if_pos rfl, hall, hlater, List.flatten_cons, List.flatten_singleton]
  rfl

end Carrier

end Courier
