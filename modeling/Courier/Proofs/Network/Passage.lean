import Courier.Network.Sender
import Courier.Proofs.Frame.Sending

/-! # One message over the network

`Passage` is what sending one message can come to: no connection is made, or the message takes its course
over the open connection or over a new one. From it follows what a send changes (`Sound`), and what it
leaves on its connection when it fails (`Leaves`).
-/

namespace Courier.Network

open Courier.Frame (Drain headerSize)
open Courier.Frame.Writer (Course)

structure Line where
  host : Host
  sender : Sender

namespace Line

def written (line : Line) (connection : Nat) : Bytes :=
  (line.host.connections.getD connection {}).written

def calls (line : Line) (connection : Nat) : Nat × Nat :=
  let drain := line.host.connections.getD connection {}
  (drain.writeCalls, drain.flushCalls)

theorem traffic_congr {line other : Line} {connection : Nat}
    (h : line.host.connections[connection]? = other.host.connections[connection]?) :
    line.written connection = other.written connection ∧ line.calls connection = other.calls connection := by
  simp only [written, calls, List.getD_eq_getElem?_getD, h, and_self]

/-- Sends a message while a new connection would come to the given attempt. -/
def send (line : Line) (attempt : Attempt) (message : Bytes) : Except Transport.Error Unit × Line :=
  let (outcome, host, sender) := line.sender.send { line.host with outlook := attempt } message
  (outcome, ⟨host, sender⟩)

end Line

/-- The connection that a message takes and the connections that there are then: the open one, or a new
one that nothing went over so far. -/
inductive Route (line : Line) : Nat → List Drain → Prop
  | reused {connection : Nat} (hopen : line.sender.connection = some connection) :
      Route line connection line.host.connections
  | opened (fresh : Drain) (hclosed : line.sender.connection = none) (hwritten : fresh.written = [])
      (hwrites : fresh.writeCalls = 0) (hflushes : fresh.flushCalls = 0) :
      Route line line.host.connections.length (line.host.connections ++ [fresh])

/-- What sending a message can come to. -/
inductive Passage (line : Line) (message : Bytes) : Except Transport.Error Unit → Line → Prop
  /-- No connection is made. -/
  | unreachable {next : Line} (error : IoError) (hclosed : line.sender.connection = none)
      (hconnections : next.host.connections = line.host.connections) (hsender : next.sender = line.sender) :
      Passage line message (.error (.connect line.sender.address error)) next
  /-- The message takes its course, and the connection stays open if that ends well. -/
  | connected {next : Line} {connection : Nat} {connections : List Drain} {after : Drain}
      {answer : Except Frame.Error Unit} (hroute : Route line connection connections)
      (hcourse : Course line.sender.limit (.encoded message) (connections.getD connection {}) after answer)
      (hconnections : next.host.connections = connections.set connection after)
      (hsender : next.sender = { line.sender with
        connection := if answer.isOk then some connection else none }) :
      Passage line message
        (answer.mapError fun error => .send line.sender.address (Transport.Error.ofFrame error)) next

theorem Line.passage_sendOn {line : Line} {host : Host} {connection : Nat} (message : Bytes)
    (hroute : Route line connection host.connections) :
    Passage line message (line.sender.sendOn host connection message).1
      ⟨(line.sender.sendOn host connection message).2.1, (line.sender.sendOn host connection message).2.2⟩ := by
  have hcourse := Frame.Writer.course_call (.encoded message)
    ⟨line.sender.limit, host.connections.getD connection {}⟩ []
  simp only [Frame.Writer.Request.call] at hcourse
  unfold Sender.sendOn
  dsimp only
  generalize Frame.Writer.sendEncoded ⟨line.sender.limit, host.connections.getD connection {}⟩ message
    = answered at hcourse ⊢
  rcases answered with ⟨_ | _, writer⟩
  · exact .connected hroute hcourse rfl rfl
  · exact .connected hroute hcourse rfl rfl

/-- A connection that is made is the last one of the host and has no traffic yet. -/
theorem Sender.connect_cases {host : Host} {sender : Sender} {connection : Nat} {connected : Host}
    (h : sender.connect host = .ok (connection, connected)) :
    connection = host.connections.length ∧ ∃ fresh : Drain, fresh.written = [] ∧ fresh.writeCalls = 0 ∧
      fresh.flushCalls = 0 ∧ connected = { host with connections := host.connections ++ [fresh] } := by
  rw [Sender.connect] at h
  split at h
  · cases h
  · split at h
    · cases h
    · dsimp only at h
      split at h
      · cases h
      · obtain ⟨rfl, rfl⟩ := Prod.mk.inj (Except.ok.inj h)
        exact ⟨rfl, _, rfl, rfl, rfl, rfl⟩

theorem Sender.fields_of_open {address : String} {limit : Nat} {timeout : Option Span} {sender : Sender}
    (h : Sender.open address limit timeout = .ok sender) :
    sender.connection = none ∧ sender.address = address ∧ sender.limit = limit := by
  rw [Sender.open] at h
  split at h
  · cases h
  · obtain rfl := Except.ok.inj h
    exact ⟨rfl, rfl, rfl⟩

theorem Line.passage_send (line : Line) (attempt : Attempt) (message : Bytes) :
    Passage line message (line.send attempt message).1 (line.send attempt message).2 := by
  rw [Line.send, Sender.send]
  cases hconnection : line.sender.connection with
  | some connection => exact passage_sendOn message (.reused hconnection)
  | none =>
    dsimp only
    split
    · exact .unreachable _ hconnection rfl rfl
    · rename_i connection host hconnect
      obtain ⟨rfl, fresh, hwritten, hwrites, hflushes, rfl⟩ := Sender.connect_cases hconnect
      exact passage_sendOn message (.opened fresh hconnection hwritten hwrites hflushes)

structure Sent where
  message : Bytes
  outcome : Except Transport.Error Unit
  before : Line
  after : Line

namespace Sent

def connection? (sent : Sent) : Option Nat :=
  sent.before.sender.connection <|>
    if sent.before.host.connections.length < sent.after.host.connections.length
    then some sent.before.host.connections.length else none

/-- What a failed send leaves on its connection: a proper prefix of the message that is not flushed, or
all of it and a flush that failed. -/
structure Leaves (sent : Sent) (connection : Nat) (part : Bytes) : Prop where
  failed : sent.outcome.isOk = false
  written : sent.after.written connection = sent.before.written connection ++ part
  isPart : part <+: sent.message
  torn_or_unflushed :
    part.length < sent.message.length ∧
        (sent.after.calls connection).2 = (sent.before.calls connection).2 ∨
      part = sent.message ∧ (sent.before.calls connection).2 < (sent.after.calls connection).2

structure Sound (sent : Sent) (address : String) (limit : Nat) : Prop where
  /-- The sender is connected after it if it succeeded, and only then. -/
  connected : sent.after.sender.isConnected = sent.outcome.isOk
  /-- Nothing happens to any other connection. -/
  elsewhere : ∀ connection, sent.connection? ≠ some connection →
    sent.after.host.connections[connection]? = sent.before.host.connections[connection]?
  /-- A message that is too large is not written, not even in part. -/
  refused : limit < sent.message.length - headerSize → sent.outcome.isOk = false ∧
    ∀ connection, sent.after.written connection = sent.before.written connection ∧
      sent.after.calls connection = sent.before.calls connection
  /-- Without a connection everything is as it was. -/
  unreachable : ∀ error, sent.outcome = .error (.connect address error) →
    sent.after.host.connections = sent.before.host.connections ∧ sent.after.sender.isConnected = false
  /-- A sender without a connection makes a new one. -/
  anew : sent.before.sender.isConnected = false →
    sent.connection? = some sent.before.host.connections.length ∨
      ∃ error, sent.outcome = .error (.connect address error)

end Sent

def Line.Wired (line : Line) : Prop :=
  ∀ connection, line.sender.connection = some connection → connection < line.host.connections.length

namespace Route

variable {line : Line} {connection : Nat} {connections : List Drain}

theorem lt_length (h : Route line connection connections) (hwired : line.Wired) :
    connection < connections.length := by
  cases h with
  | reused hopen => exact hwired _ hopen
  | opened fresh => simp

theorem elsewhere (h : Route line connection connections) {other : Nat} (hne : other ≠ connection) :
    connections[other]? = line.host.connections[other]? := by
  cases h with
  | reused hopen => rfl
  | opened fresh =>
    rcases Nat.lt_or_gt_of_ne hne with hlt | hgt
    · rw [List.getElem?_append_left hlt]
    · rw [List.getElem?_eq_none (by simp; omega), List.getElem?_eq_none (Nat.le_of_lt hgt)]

theorem length_le (h : Route line connection connections) :
    line.host.connections.length ≤ connections.length := by
  cases h with
  | reused hopen => exact Nat.le_refl _
  | opened fresh => simp

theorem before (h : Route line connection connections) (other : Nat) :
    (connections.getD other {}).written = line.written other ∧
      ((connections.getD other {}).writeCalls, (connections.getD other {}).flushCalls)
        = line.calls other := by
  rw [Line.written, Line.calls]
  by_cases hother : other = connection
  · subst hother
    cases h with
    | reused hopen => exact ⟨rfl, rfl⟩
    | opened fresh hclosed hwritten hwrites hflushes => simp [hwritten, hwrites, hflushes]
  · simp only [List.getD_eq_getElem?_getD, h.elsewhere hother, and_self]

theorem connection? (h : Route line connection connections) {next : Line} {after : Drain}
    (hconnections : next.host.connections = connections.set connection after) (message : Bytes)
    (outcome : Except Transport.Error Unit) :
    (Sent.mk message outcome line next).connection? = some connection := by
  rw [Sent.connection?]
  cases h with
  | reused hopen => simp [hopen]
  | opened fresh hclosed => simp [hclosed, hconnections]

end Route

/-- What a message that took a connection has changed: the connection, and whether it is open. -/
structure Taken (sent : Sent) (connection : Nat) (before after : Drain) : Prop where
  connection? : sent.connection? = some connection
  written_before : sent.before.written connection = before.written
  calls_before : sent.before.calls connection = (before.writeCalls, before.flushCalls)
  written_after : sent.after.written connection = after.written
  calls_after : sent.after.calls connection = (after.writeCalls, after.flushCalls)
  elsewhere : ∀ other, other ≠ connection →
    sent.after.host.connections[other]? = sent.before.host.connections[other]?
  lt_length : connection < sent.after.host.connections.length

theorem Route.taken {line next : Line} {connection : Nat} {connections : List Drain} {after : Drain}
    (h : Route line connection connections) (hwired : line.Wired)
    (hconnections : next.host.connections = connections.set connection after) (message : Bytes)
    (outcome : Except Transport.Error Unit) :
    Taken ⟨message, outcome, line, next⟩ connection (connections.getD connection {}) after := by
  have hlt := h.lt_length hwired
  have hafter : next.host.connections.getD connection {} = after := by
    rw [hconnections, List.getD_eq_getElem?_getD, List.getElem?_set_self hlt]
    rfl
  refine ⟨h.connection? hconnections message outcome, (h.before connection).1.symm,
    (h.before connection).2.symm, congrArg Drain.written hafter, ?_, ?_, ?_⟩
  · show (_, _) = _
    rw [hafter]
  · intro other hother
    show next.host.connections[other]? = _
    rw [hconnections, List.getElem?_set_ne (Ne.symm hother), h.elsewhere hother]
  · show connection < next.host.connections.length
    rwa [hconnections, List.length_set]

namespace Taken

variable {sent : Sent} {connection limit : Nat} {before after : Drain} {answer : Except Frame.Error Unit}

theorem written_of_ok (h : Taken sent connection before after)
    (hcourse : Course limit (.encoded sent.message) before after answer) (hok : answer.isOk = true) :
    sent.after.written connection = sent.before.written connection ++ sent.message := by
  cases answer with
  | error error => cases hok
  | ok _ =>
    rw [h.written_after, hcourse.appended_encoded, h.written_before]

theorem leaves_of_error (h : Taken sent connection before after)
    (hcourse : Course limit (.encoded sent.message) before after answer) (hanswer : answer.isOk = false)
    (hfailed : sent.outcome.isOk = false) : ∃ part, sent.Leaves connection part := by
  cases answer with
  | ok _ => cases hanswer
  | error error =>
    obtain ⟨part, hwritten, hpart, hflush⟩ := hcourse.left_of_error
    refine ⟨part, hfailed, ?_, hpart, ?_⟩
    · rw [h.written_after, hwritten, h.written_before]
    · rw [h.calls_after, h.calls_before]
      exact hflush

end Taken

namespace Passage

variable {line next : Line} {message : Bytes} {outcome : Except Transport.Error Unit}

theorem wired (h : Passage line message outcome next) (hwired : line.Wired) : next.Wired := by
  intro connection hconnection
  cases h with
  | unreachable error hclosed hconnections hsender =>
    rw [hsender, hclosed] at hconnection
    cases hconnection
  | connected hroute hcourse hconnections hsender =>
    rw [hsender] at hconnection
    dsimp only at hconnection
    split at hconnection
    · obtain rfl := Option.some.inj hconnection
      rw [hconnections, List.length_set]
      exact hroute.lt_length hwired
    · cases hconnection

theorem same_destination (h : Passage line message outcome next) :
    next.sender.address = line.sender.address ∧ next.sender.limit = line.sender.limit := by
  cases h with
  | unreachable error hclosed hconnections hsender =>
    rw [hsender]
    exact ⟨rfl, rfl⟩
  | connected hroute hcourse hconnections hsender =>
    rw [hsender]
    exact ⟨rfl, rfl⟩

theorem isOk_mapError {answer : Except Frame.Error Unit} (f : Frame.Error → Transport.Error) :
    (answer.mapError f).isOk = answer.isOk := by
  cases answer <;> rfl

theorem sound (h : Passage line message outcome next) (hwired : line.Wired) :
    (Sent.mk message outcome line next).Sound line.sender.address line.sender.limit := by
  cases h with
  | unreachable error hclosed hconnections hsender =>
    refine ⟨?_, fun _ _ => by rw [hconnections], fun _ => ⟨rfl, fun _ => ?_⟩, fun _ _ => ?_, fun _ => ?_⟩
    · rw [Sender.isConnected, hsender, hclosed]
      rfl
    · simp only [Line.written, Line.calls, hconnections, and_self]
    · rw [hconnections, Sender.isConnected, hsender, hclosed]
      exact ⟨rfl, rfl⟩
    · exact .inr ⟨error, rfl⟩
  | @connected _ connection connections after answer hroute hcourse hconnections hsender =>
    have htaken := hroute.taken hwired hconnections message
      (answer.mapError fun error => .send line.sender.address (Transport.Error.ofFrame error))
    refine ⟨?_, ?_, ?_, ?_, ?_⟩
    · rw [Sender.isConnected, hsender, isOk_mapError]
      cases answer <;> rfl
    · intro other hother
      exact htaken.elsewhere other fun h => hother (h ▸ htaken.connection?)
    · intro hlarge
      obtain ⟨hfailed, rfl⟩ := hcourse.refused_of_lt hlarge
      refine ⟨(isOk_mapError _).trans hfailed, fun other => ?_⟩
      by_cases hother : other = connection
      · subst hother
        exact ⟨htaken.written_after.trans htaken.written_before.symm,
          htaken.calls_after.trans htaken.calls_before.symm⟩
      · exact Line.traffic_congr (htaken.elsewhere other hother)
    · intro error herror
      cases answer <;> cases herror
    · intro hclosed
      left
      rw [htaken.connection?]
      cases hroute with
      | reused hopen =>
        rw [Sender.isConnected, hopen] at hclosed
        cases hclosed
      | opened fresh => rfl

end Passage

end Courier.Network
