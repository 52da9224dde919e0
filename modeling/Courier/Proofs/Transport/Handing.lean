import Courier.Proofs.Network.Passage
import Courier.Proofs.Queue.Passing
import Courier.Proofs.Sink.Appending
import Courier.Transport.Basic

/-! # One message through a new transport

A transport that was opened for a port and took one message has left that message where the port leads,
once and whole, and has changed nothing else.
-/

namespace Courier

namespace Network.Sender

variable {host later : Host} {sender after : Sender} {message : Bytes} {connection : Nat}

/-- A message that an open connection takes is added to what went over it. -/
theorem of_sendOn (h : sender.sendOn host connection message = (.ok (), later, after)) :
    after = { sender with connection := some connection } ∧ ∃ drain : Frame.Drain,
      drain.written = (host.connections.getD connection {}).written ++ message ∧
        later = { host with connections := host.connections.set connection drain } := by
  have hcourse := Frame.Writer.course_call (.encoded message)
    ⟨sender.limit, host.connections.getD connection {}⟩ []
  simp only [Frame.Writer.Request.call] at hcourse
  unfold sendOn at h
  dsimp only at h
  generalize Frame.Writer.sendEncoded ⟨sender.limit, host.connections.getD connection {}⟩ message
    = answered at hcourse h
  rcases answered with ⟨_ | _, writer⟩
  · cases h
  · obtain ⟨-, hrest⟩ := Prod.mk.inj h
    obtain ⟨rfl, rfl⟩ := Prod.mk.inj hrest
    exact ⟨rfl, _, hcourse.appended_encoded, rfl⟩

/-- A sender without a connection makes one for its message, and nothing else goes over it. -/
theorem of_send_closed (hclosed : sender.connection = none)
    (h : sender.send host message = (.ok (), later, after)) :
    after = { sender with connection := some host.connections.length } ∧ ∃ drain : Frame.Drain,
      drain.written = message ∧ later = { host with connections := host.connections ++ [drain] } := by
  rw [send, hclosed] at h
  cases hconnect : sender.connect host with
  | error error =>
    rw [hconnect] at h
    cases h
  | ok made =>
    rw [hconnect] at h
    obtain ⟨hconnection, fresh, hfresh, -, -, hmade⟩ := connect_cases hconnect
    obtain ⟨rfl, drain, hwritten, rfl⟩ := of_sendOn h
    rw [hconnection, hmade] at hwritten ⊢
    refine ⟨rfl, drain, ?_, ?_⟩
    · simpa [hfresh] using hwritten
    · simp

end Network.Sender

namespace Transport

/-- The host and the transport after the first message to a transport that was opened for a port. -/
inductive Handed (host : Host) (port : Port) (message : Bytes) : Transport → Host → Prop
  | queue {path : String} {socket : Nat} {endpoint : Endpoint} (hbackend : port.backend? = some .localQueue)
      (hname : Queue.resolveName host.queueDirectory port.address = .ok path)
      (hsocket : host.store.node true path = .ok (.socket socket))
      (hendpoint : host.endpoints.get? socket = some endpoint) :
      Handed host port message (.queue ⟨port.address, path⟩)
        (host.setEndpoint socket { endpoint with queue := endpoint.queue ++ [message] })
  | network {sender : Network.Sender} {drain : Frame.Drain} (hbackend : port.backend? = some .network)
      (haddress : sender.address = port.address)
      (hconnection : sender.connection = some host.connections.length) (hwritten : drain.written = message) :
      Handed host port message (.network sender) { host with connections := host.connections ++ [drain] }
  | file {sink : Sink.FileSink} {opened : Store} {file : Nat} (hbackend : port.backend? = some .file)
      (hpath : sink.path = port.address) (htarget : sink.target = .file file)
      (hopened : host.store.openAppend port.address = .ok (opened, .file file)) :
      Handed host port message (.file sink)
        { host with store := opened.setContent file (opened.content file ++ message) }
  | device {sink : Sink.FileSink} {full : Bool} (hbackend : port.backend? = some .file)
      (hpath : sink.path = port.address) (htarget : sink.target = .device full)
      (hopened : host.store.openAppend port.address = .ok (host.store, .device full)) :
      Handed host port message (.file sink) host
  | null (hbackend : port.backend? = some .null) : Handed host port message (.null ⟨1⟩) host
  | dump (hbackend : port.backend? = some .dump) :
      Handed host port message (.dump ⟨some message, 1⟩) host

variable {host opened later : Host} {port : Port} {config : StreamConfig} {transport after : Transport}
  {message : Bytes}

theorem Handed.backend (h : Handed host port message transport later) :
    port.backend? = some transport.backend := by
  cases h <;> assumption

/-- A device is there before it is opened. -/
theorem store_of_openAppend_device {store opened : Store} {path : String} {full : Bool}
    (h : store.openAppend path = .ok (opened, .device full)) : opened = store := by
  rw [Store.openAppend] at h
  split at h
  · cases h
  · split at h <;> cases h
    rfl

theorem handed_file {sink : Sink.FileSink} (hbackend : port.backend? = some .file)
    (hopen : Sink.FileSink.open host port.address config.limit = (.ok sink, opened))
    (hsend : sink.send opened message = (.ok (), later)) : Handed host port message (.file sink) later := by
  rw [Sink.FileSink.open] at hopen
  split at hopen
  · cases hopen
  · rename_i store target hstore
    obtain ⟨hsink, rfl⟩ := Prod.mk.inj hopen
    obtain rfl := Except.ok.inj hsink
    rw [Sink.FileSink.send, Sink.FileSink.sendUnder] at hsend
    generalize Sink.FileSink.outlook _ _ = writes at hsend
    generalize hcontent : Sink.FileSink.content _ _ = content at hsend
    rcases Sink.append_cases config.limit writes [] content message with happend | ⟨error, happend⟩
    · rw [happend] at hsend
      obtain ⟨-, rfl⟩ := Prod.mk.inj hsend
      cases target with
      | file file =>
        obtain rfl : content = store.content file := hcontent.symm
        exact .file hbackend rfl rfl hstore
      | device full =>
        obtain rfl := store_of_openAppend_device hstore
        exact .device hbackend rfl rfl hstore
    · rw [happend] at hsend
      cases hsend

theorem handed_of_send (hopen : openSend host port config = (.ok transport, opened))
    (hsend : transport.send opened message = (.ok (), later, after)) :
    Handed host port message after later := by
  rw [openSend] at hopen
  split at hopen
  · cases hopen
  · rename_i hbackend
    rw [Queue.Sender.open] at hopen
    split at hopen
    · cases hopen
    · rename_i path hname
      cases hopen
      rw [send, Queue.Sender.send] at hsend
      dsimp only at hsend
      split at hsend
      · cases hsend
      · rename_i delivered hdeliver
        cases hsend
        obtain ⟨socket, endpoint, hsocket, hendpoint, -, -, -, rfl⟩ := Queue.Sender.of_deliver hdeliver
        exact .queue hbackend hname hsocket hendpoint
  · rename_i hbackend
    cases hsender : Network.Sender.open port.address config.limit config.writeTimeout with
    | error error =>
      rw [hsender] at hopen
      cases hopen
    | ok sender =>
      rw [hsender] at hopen
      cases hopen
      obtain ⟨hclosed, haddress, -⟩ := Network.Sender.fields_of_open hsender
      rw [send] at hsend
      rcases hsent : sender.send host message with ⟨outcome, sent, next⟩
      rw [hsent] at hsend
      cases hsend
      obtain ⟨rfl, drain, hwritten, rfl⟩ := Network.Sender.of_send_closed hclosed hsent
      exact .network hbackend haddress rfl hwritten
  · rename_i hbackend
    rcases hsink : Sink.FileSink.open host port.address config.limit with ⟨_ | sink, made⟩
    · rw [hsink] at hopen
      cases hopen
    · rw [hsink] at hopen
      cases hopen
      rw [send] at hsend
      rcases hsent : sink.send opened message with ⟨outcome, sent⟩
      rw [hsent] at hsend
      cases hsend
      exact handed_file hbackend hsink hsent
  · cases hopen
    cases hsend
    exact .null ‹_›
  · cases hopen
    cases hsend
    exact .dump ‹_›

end Transport

end Courier
