import Courier.Proofs.Network.Passage
import Courier.Proofs.Port.Text
import Courier.Proofs.Reception.Flow
import Mathlib.Data.List.Induction

/-! # What a carrier remembers

Whether a carrier is connected, to what, and which name and address it shows, is a function of what it was
asked for so far. `Follows` is the invariant that ties the carrier to its history, `Follows.perform` is one
request, and `state_follows_history` says it of every run. Between two requests anything may happen to the
host.
-/

namespace Courier

namespace Transport

/-- The transport as it was when it was opened: without a connection, and without what was sent. -/
def pristine : Transport → Transport
  | queue sender => queue sender
  | network sender => network { sender with connection := none }
  | file sink => file sink
  | null _ => null {}
  | dump _ => dump {}

/-- Whether a transport was opened on an address. Those that keep no messages for anyone ignore theirs. -/
def IsOn (address : String) : Transport → Prop
  | queue sender => sender.name = address
  | network sender => sender.address = address
  | file sink => sink.path = address
  | null _ | dump _ => True

variable {host later : Host} {port : Port} {config : StreamConfig} {transport : Transport}

theorem of_openSend (h : openSend host port config = (.ok transport, later)) :
    port.backend? = some transport.backend ∧ transport.IsOn port.address ∧
      transport.pristine = transport := by
  rw [openSend] at h
  split at h
  · cases h
  · rename_i hbackend
    simp only [Queue.Sender.open] at h
    split at h <;> cases h
    exact ⟨hbackend, rfl, rfl⟩
  · rename_i hbackend
    simp only [Network.Sender.open] at h
    split at h <;> cases h
    exact ⟨hbackend, rfl, rfl⟩
  · rename_i hbackend
    simp only [Sink.FileSink.open] at h
    split at h <;> cases h
    exact ⟨hbackend, rfl, rfl⟩
  · cases h
    exact ⟨‹_›, trivial, rfl⟩
  · cases h
    exact ⟨‹_›, trivial, rfl⟩

end Transport

/-- A sender changes nothing of itself but its connection, which it loses by a send that fails. -/
theorem Network.Passage.sender_cases {line next : Network.Line} {message : Bytes}
    {outcome : Except Transport.Error Unit} (h : Network.Passage line message outcome next) :
    ∃ connection, next.sender = { line.sender with connection } ∧
      (outcome.isOk = false → connection = none) := by
  cases h with
  | unreachable error hclosed hconnections hsender =>
    exact ⟨none, hsender.trans (by rw [← hclosed]), fun _ => rfl⟩
  | connected hroute hcourse hconnections hsender =>
    refine ⟨_, hsender, fun hfailed => ?_⟩
    rw [isOk_mapError] at hfailed
    simp [hfailed]

theorem Network.Sender.send_cases (host : Host) (sender : Network.Sender) (message : Bytes) :
    ∃ connection, (sender.send host message).2.2 = { sender with connection } ∧
      ((sender.send host message).1.isOk = false → connection = none) :=
  (Line.passage_send ⟨host, sender⟩ host.outlook message).sender_cases

namespace Transport

theorem pristine_send (host : Host) (transport : Transport) (message : Bytes) :
    (transport.send host message).2.2.pristine = transport.pristine := by
  cases transport with
  | network sender =>
    obtain ⟨connection, hsender, -⟩ := sender.send_cases host message
    simp only [send, hsender, pristine]
  | queue | file | null | dump => rfl

theorem send_failed {transport : Transport} {message : Bytes}
    (h : (transport.send host message).1.isOk = false) :
    (transport.send host message).2.2 = transport ∨ ∃ sender, transport = .network sender ∧
      (transport.send host message).2.2 = .network { sender with connection := none } := by
  cases transport with
  | network sender =>
    obtain ⟨connection, hsender, hlost⟩ := sender.send_cases host message
    refine .inr ⟨sender, rfl, ?_⟩
    simp only [send, hsender, hlost h]
  | queue | file => exact .inl rfl
  | null | dump => cases h

end Transport

namespace Carrier

open Reception (Letter)

inductive Request where
  | establish (text : String)
  | shutdown
  | send (letter : Letter)

def Request.text? : Request → Option String
  | establish text => some text
  | shutdown | send _ => none

structure Done where
  request : Request
  host : Host
  before : Carrier
  answer : Bool
  later : Host
  after : Carrier

def perform (host : Host) (carrier : Carrier) : Request → Bool × Host × Carrier
  | .establish text => carrier.establish host text
  | .shutdown => (true, host, carrier.shutdown)
  | .send letter => carrier.sendLetter host letter

def run : List (Host × Request) → Carrier → List Done × Carrier
  | [], carrier => ([], carrier)
  | (host, request) :: requests, carrier =>
    let (answer, later, next) := carrier.perform host request
    let (others, last) := run requests next
    (⟨request, host, carrier, answer, later, next⟩ :: others, last)

def latest? (history : List Done) : Option String :=
  (history.filterMap (·.request.text?)).getLast?

/-- The latest request to connect, if only sends came after it. -/
def Standing (history : List Done) (done : Done) : Prop :=
  ∃ earlier later, history = earlier ++ done :: later ∧ (∃ text, done.request = .establish text) ∧
    ∀ other ∈ later, ∃ letter, other.request = .send letter

theorem standing_append_iff {history : List Done} {last done : Done} :
    Standing (history ++ [last]) done ↔ (done = last ∧ ∃ text, last.request = .establish text) ∨
      (∃ letter, last.request = .send letter) ∧ Standing history done := by
  constructor
  · rintro ⟨earlier, later, hhistory, htext, hsends⟩
    cases later using List.reverseRecOn with
    | nil =>
      obtain ⟨-, hlast⟩ := List.append_inj' hhistory rfl
      obtain rfl : last = done := by simpa using hlast
      exact .inl ⟨rfl, htext⟩
    | append_singleton others other =>
      rw [← List.cons_append, ← List.append_assoc] at hhistory
      obtain ⟨hearlier, hlast⟩ := List.append_inj' hhistory rfl
      obtain rfl : last = other := by simpa using hlast
      refine .inr ⟨hsends last (by simp), earlier, others, hearlier, htext, fun other hother => ?_⟩
      exact hsends other (List.mem_append_left _ hother)
  · rintro (⟨rfl, htext⟩ | ⟨hsend, earlier, others, rfl, htext, hsends⟩)
    · exact ⟨history, [], rfl, htext, fun _ h => absurd h List.not_mem_nil⟩
    · refine ⟨earlier, others ++ [last], by simp, htext, fun other hother => ?_⟩
      rcases List.mem_append.1 hother with hother | hother
      · exact hsends other hother
      · obtain rfl := List.mem_singleton.1 hother
        exact hsend

theorem latest?_append (history : List Done) (last : Done) :
    latest? (history ++ [last]) = last.request.text?.or (latest? history) := by
  rw [latest?, List.filterMap_append]
  cases htext : last.request.text? with
  | none => simp [htext, latest?]
  | some text => simp [htext]

variable {host : Host} {carrier : Carrier} {config : StreamConfig} {history : List Done}

/-- A port that is read is kept, and a connection is there exactly if it was opened for that port. -/
theorem establish_cases (host : Host) (carrier : Carrier) (text : String) :
    (∃ fault, Port.parse text = .error fault ∧ carrier.establish host text
        = (false, host, { carrier with port := none, transport := none })) ∨
      ∃ port outcome later, text = port.text ∧
        Transport.openSend host port carrier.config = (outcome, later) ∧ carrier.establish host text
          = (outcome.isOk, later, { carrier with port := some port, transport := outcome.toOption }) := by
  rw [establish]
  cases hport : Port.parse text with
  | error fault => exact .inl ⟨fault, rfl, rfl⟩
  | ok port =>
    rcases hopen : Transport.openSend host port carrier.config with ⟨_ | transport, later⟩
    · exact .inr ⟨port, _, later, Port.parse_eq_ok_iff.1 hport, hopen, by simp only [hopen]; rfl⟩
    · exact .inr ⟨port, _, later, Port.parse_eq_ok_iff.1 hport, hopen, by simp only [hopen]; rfl⟩

theorem send_transport (host : Host) (carrier : Carrier) (frame : Frame) :
    ∃ transport, (carrier.send host frame).2.2 = { carrier with transport } ∧
      transport.map Transport.pristine = carrier.transport.map Transport.pristine := by
  rw [send]
  split
  · exact ⟨_, rfl, rfl⟩
  · rename_i transport htransport
    split
    · exact ⟨_, rfl, rfl⟩
    · rename_i bytes hencode
      refine ⟨_, rfl, ?_⟩
      rw [htransport, Option.map_some, Option.map_some, transport.pristine_send host bytes]

theorem send_disconnected (hclosed : carrier.transport = none) (frame : Frame) :
    carrier.send host frame = (false, host, carrier) := by
  rw [send, hclosed]

theorem send_failed {frame : Frame} (h : (carrier.send host frame).1 = false) :
    (carrier.send host frame).2.2 = carrier ∨ ∃ sender, carrier.transport = some (.network sender) ∧
      (carrier.send host frame).2.2
        = { carrier with transport := some (.network { sender with connection := none }) } := by
  rw [send] at h ⊢
  split at h
  · exact .inl rfl
  · rename_i transport htransport
    split at h
    · exact .inl rfl
    · rename_i bytes hencode
      rcases Transport.send_failed h with hkept | ⟨sender, rfl, hlost⟩
      · left
        simp only [hkept, ← htransport]
      · exact .inr ⟨sender, htransport, by simp only [hlost]⟩

/-- What is known of a carrier after what it was asked for. -/
structure Follows (config : StreamConfig) (history : List Done) (carrier : Carrier) : Prop where
  sameConfig : carrier.config = config
  port : carrier.port = (latest? history).bind fun text => (Port.parse text).toOption
  closed : carrier.transport = none → ∀ done, Standing history done → done.answer = false
  opened : ∀ transport, carrier.transport = some transport → ∃ done port, Standing history done ∧
    done.answer = true ∧ done.request = .establish port.text ∧ carrier.port = some port ∧
      Transport.openSend done.host port config = (.ok transport.pristine, done.later)

namespace Follows

theorem establish (h : Follows config history carrier) (host : Host) (text : String) :
    Follows config (history ++ [⟨.establish text, host, carrier, (carrier.establish host text).1,
      (carrier.establish host text).2.1, (carrier.establish host text).2.2⟩])
      (carrier.establish host text).2.2 := by
  rcases establish_cases host carrier text with
    ⟨fault, hport, hestablish⟩ | ⟨port, outcome, later, htext, hopen, hestablish⟩
  · rw [hestablish]
    refine ⟨h.sameConfig, ?_, ?_, nofun⟩
    · rw [latest?_append]
      simp [Request.text?, hport, Except.toOption]
    · rintro - done hstanding
      rcases standing_append_iff.1 hstanding with ⟨rfl, -⟩ | ⟨⟨letter, hletter⟩, -⟩
      · rfl
      · cases hletter
  · rw [hestablish]
    refine ⟨h.sameConfig, ?_, ?_, ?_⟩
    · rw [latest?_append]
      simp [Request.text?, Port.parse_eq_ok_iff.2 htext, Except.toOption]
    · rintro hclosed done hstanding
      rcases standing_append_iff.1 hstanding with ⟨rfl, -⟩ | ⟨⟨letter, hletter⟩, -⟩
      · cases outcome with
        | error error => rfl
        | ok transport => cases hclosed
      · cases hletter
    · intro transport htransport
      cases outcome with
      | error error => cases htransport
      | ok opened =>
        obtain rfl := Option.some.inj htransport
        obtain ⟨-, -, hpristine⟩ := Transport.of_openSend hopen
        rw [h.sameConfig] at hopen
        refine ⟨_, port, standing_append_iff.2 (.inl ⟨rfl, text, rfl⟩), rfl, by rw [htext], rfl, ?_⟩
        rw [hpristine]
        exact hopen

theorem shutdown (h : Follows config history carrier) (host : Host) :
    Follows config (history ++ [⟨.shutdown, host, carrier, true, host, carrier.shutdown⟩])
      carrier.shutdown where
  sameConfig := h.sameConfig
  port := by
    rw [latest?_append]
    exact h.port
  closed := by
    rintro - done hstanding
    rcases standing_append_iff.1 hstanding with ⟨rfl, text, htext⟩ | ⟨⟨letter, hletter⟩, -⟩
    · cases htext
    · cases hletter
  opened := nofun

theorem send (h : Follows config history carrier) (host : Host) (letter : Letter) :
    Follows config (history ++ [⟨.send letter, host, carrier, (carrier.sendLetter host letter).1,
      (carrier.sendLetter host letter).2.1, (carrier.sendLetter host letter).2.2⟩])
      (carrier.sendLetter host letter).2.2 := by
  rw [sendLetter_eq]
  obtain ⟨transport, hnext, hpristine⟩ := send_transport host carrier letter.frame
  rw [hnext]
  refine ⟨h.sameConfig, ?_, ?_, ?_⟩
  · rw [latest?_append]
    exact h.port
  · rintro (rfl : transport = none) done hstanding
    have hbefore : carrier.transport = none := by simpa using hpristine.symm
    rcases standing_append_iff.1 hstanding with ⟨rfl, text, htext⟩ | ⟨-, hstanding⟩
    · cases htext
    · exact h.closed hbefore done hstanding
  · rintro later rfl
    obtain ⟨before, hbefore, hsame⟩ := Option.map_eq_some_iff.1 hpristine.symm
    obtain ⟨done, port, hstanding, hanswer, hrequest, hport, hopen⟩ := h.opened before hbefore
    refine ⟨done, port, standing_append_iff.2 (.inr ⟨⟨letter, rfl⟩, hstanding⟩), hanswer, hrequest, hport, ?_⟩
    rw [← hsame]
    exact hopen

theorem perform (h : Follows config history carrier) (host : Host) (request : Request) :
    Follows config (history ++ [⟨request, host, carrier, (carrier.perform host request).1,
      (carrier.perform host request).2.1, (carrier.perform host request).2.2⟩])
      (carrier.perform host request).2.2 := by
  cases request with
  | establish text => exact h.establish host text
  | shutdown => exact h.shutdown host
  | send letter => exact h.send host letter

theorem run (h : Follows config history carrier) (requests : List (Host × Request)) :
    Follows config (history ++ (Carrier.run requests carrier).1) (Carrier.run requests carrier).2 := by
  induction requests generalizing history carrier with
  | nil => simpa [Carrier.run] using h
  | cons request requests ih =>
    have hnext := ih (h.perform request.1 request.2)
    rw [List.append_assoc] at hnext
    exact hnext

end Follows

theorem establish_malformed {text : String} (h : ∀ port : Port, text ≠ port.text) (host : Host)
    (carrier : Carrier) : (carrier.establish host text).1 = false := by
  rcases establish_cases host carrier text with
    ⟨fault, hport, hestablish⟩ | ⟨port, outcome, later, htext, -⟩
  · rw [hestablish]
  · exact absurd htext (h port)

theorem establish_port (host : Host) (carrier : Carrier) (port : Port) :
    (carrier.establish host port.text).1 = (Transport.openSend host port carrier.config).1.isOk := by
  rcases establish_cases host carrier port.text with
    ⟨fault, hport, -⟩ | ⟨other, outcome, later, htext, hopen, hestablish⟩
  · rw [Port.parse_eq_ok_iff.2 rfl] at hport
    cases hport
  · obtain rfl : port = other := by
      have hport := Port.parse_eq_ok_iff.2 htext
      rw [Port.parse_eq_ok_iff.2 rfl] at hport
      exact Except.ok.inj hport
    rw [hestablish, hopen]

theorem establish_unknown {port : Port} (h : ∀ backend : Backend, port.tag ≠ backend.tag) (host : Host)
    (carrier : Carrier) : (carrier.establish host port.text).1 = false := by
  have hbackend : port.backend? = none := by
    rw [Port.backend?, Backend.ofTag?, List.find?_eq_none]
    intro backend _ htag
    exact h backend (beq_iff_eq.1 htag).symm
  rw [establish_port, Transport.openSend, hbackend]
  rfl

/-- Sinks that keep no messages for anyone are opened under any address. -/
theorem establish_sink {backend : Backend} (h : backend = .null ∨ backend = .dump) {address : String}
    (haddress : address ≠ "") (host : Host) (carrier : Carrier) :
    (carrier.establish host (Port.join backend.tag address)).1 = true := by
  have htag : backend.tag ≠ "" ∧ ':' ∉ backend.tag.toList ∧ Backend.ofTag? backend.tag = some backend := by
    rcases h with rfl | rfl <;> decide
  obtain ⟨hempty, hcolon, hbackend⟩ := htag
  let port : Port := ⟨backend.tag, address, hempty, hcolon, haddress⟩
  have hport : port.backend? = some backend := hbackend
  have hopened := establish_port host carrier port
  rw [Transport.openSend, hport] at hopened
  rcases h with rfl | rfl
  · exact hopened
  · exact hopened

theorem establish_failed {text : String} (h : (carrier.establish host text).1 = false) :
    (carrier.establish host text).2.2.isConnected = false := by
  rcases establish_cases host carrier text with
    ⟨fault, hport, hestablish⟩ | ⟨port, outcome, later, -, -, hestablish⟩
  · rw [hestablish]
    rfl
  · rw [hestablish] at h ⊢
    cases outcome with
    | error error => rfl
    | ok transport => cases h

structure Done.Sound (done : Done) : Prop where
  malformed : ∀ text, done.request = .establish text → (∀ port : Port, text ≠ port.text) →
    done.answer = false
  unknown : ∀ port : Port, done.request = .establish port.text →
    (∀ backend : Backend, port.tag ≠ backend.tag) → done.answer = false
  sink : ∀ (backend : Backend) (address : String), backend = .null ∨ backend = .dump → address ≠ "" →
    done.request = .establish (Port.join backend.tag address) → done.answer = true
  /-- A connection that was there before is gone as well. -/
  failed : ∀ text, done.request = .establish text → done.answer = false →
    done.after.isConnected = false
  /-- Without a connection nothing is sent, and nothing changes anywhere. -/
  disconnected : ∀ letter, done.request = .send letter → done.before.isConnected = false →
    done.answer = false ∧ done.later = done.host ∧ done.after = done.before
  /-- Only a network sender loses something by a failed send: the connection that its transport has. -/
  unsent : ∀ letter, done.request = .send letter → done.answer = false →
    done.after = done.before ∨ ∃ sender, done.before.transport = some (.network sender) ∧
      done.after = { done.before with transport := some (.network { sender with connection := none }) }
  shut : done.request = .shutdown → done.after = { done.before with transport := none } ∧
    done.later = done.host ∧ done.after.shutdown = done.after

theorem sound_perform (host : Host) (carrier : Carrier) (request : Request) :
    Done.Sound ⟨request, host, carrier, (carrier.perform host request).1,
      (carrier.perform host request).2.1, (carrier.perform host request).2.2⟩ := by
  constructor
  case malformed =>
    rintro text rfl hmalformed
    exact establish_malformed hmalformed host carrier
  case unknown =>
    rintro port rfl hunknown
    exact establish_unknown hunknown host carrier
  case sink =>
    rintro backend address hbackend haddress rfl
    exact establish_sink hbackend haddress host carrier
  case failed =>
    rintro text rfl hfailed
    exact establish_failed hfailed
  case disconnected =>
    rintro letter rfl hclosed
    have hclosed : carrier.transport = none := by simpa [isConnected] using hclosed
    simp only [perform, sendLetter_eq, send_disconnected hclosed, and_self]
  case unsent =>
    rintro letter rfl hfailed
    simp only [perform, sendLetter_eq] at hfailed ⊢
    exact send_failed hfailed
  case shut =>
    rintro rfl
    exact ⟨rfl, rfl, rfl⟩

theorem sound_run (requests : List (Host × Request)) (carrier : Carrier) :
    ∀ done ∈ (Carrier.run requests carrier).1, done.Sound := by
  induction requests generalizing carrier with
  | nil => exact fun _ h => absurd h List.not_mem_nil
  | cons request requests ih =>
    intro done hdone
    rcases List.mem_cons.1 hdone with rfl | hlater
    · exact sound_perform request.1 carrier request.2
    · exact ih _ done hlater

end Carrier

end Courier
