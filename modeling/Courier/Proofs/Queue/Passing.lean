import Courier.Carrier
import Courier.Proofs.Store.Walk

/-! # Messages that pass through a queue

A socket serves a list of messages while somebody receives from it. A carrier that reaches the socket adds
its message at the end of the list or fails and changes nothing, and a receiver takes the first one.
-/

namespace Courier

namespace Host

/-- Somebody receives from the socket, and the messages are queued there. -/
def Serves (host : Host) (socket : Nat) (queued : List Bytes) : Prop :=
  ∃ access, host.endpoints.get? socket = some { access, queue := queued }

/-- Paths lead to the same sockets and names stand for the same paths. -/
structure SamePlaces (host later : Host) : Prop where
  store : later.store = host.store
  queueDirectory : later.queueDirectory = host.queueDirectory

theorem SamePlaces.refl (host : Host) : SamePlaces host host := ⟨rfl, rfl⟩

variable {host : Host} {socket : Nat} {queued : List Bytes}

theorem of_makeSocket {path : String} {endpoint : Endpoint} {later : Host}
    (h : host.makeSocket path endpoint = .ok (socket, later)) :
    later.store.node true path = .ok (.socket socket) ∧ later.endpoints.get? socket = some endpoint ∧
      later.queueDirectory = host.queueDirectory := by
  rw [makeSocket] at h
  split at h
  · cases h
  · split at h
    · cases h
    · rename_i place hvacancy
      obtain ⟨rfl, rfl⟩ := Prod.mk.inj (Except.ok.inj h)
      exact ⟨Store.node_setNode_of_vacancy hvacancy nofun, Table.get?_insert_self _ _ _, rfl⟩

theorem serves_setEndpoint (host : Host) (socket : Nat) (access : Access) (queued : List Bytes) :
    (host.setEndpoint socket { access, queue := queued }).Serves socket queued :=
  ⟨access, Table.get?_insert_self _ _ _⟩

end Host

namespace Queue

variable {host : Host} {socket : Nat} {queued : List Bytes} {path : String} {message : Bytes}

/-- A message that is sent is added to the queue of a datagram socket that somebody receives from. -/
theorem Sender.of_deliver {later : Host} (h : deliver host path message = .ok later) :
    ∃ id endpoint, host.store.node true path = .ok (.socket id) ∧ host.endpoints.get? id = some endpoint ∧
      endpoint.isLive = true ∧ endpoint.isStream = false ∧ endpoint.isWoken = false ∧
      later = host.setEndpoint id { endpoint with queue := endpoint.queue ++ [message] } := by
  rw [deliver] at h
  split at h
  · cases h
  · split at h
    · cases h
    · split at h
      · cases h
      · rename_i id hnode
        split at h
        · cases h
        · rename_i endpoint hendpoint
          refine ⟨id, endpoint, hnode, hendpoint, ?_⟩
          cases hlive : endpoint.isLive <;> cases hstream : endpoint.isStream <;>
            cases hwoken : endpoint.isWoken <;> simp [hlive, hstream, hwoken] at h ⊢
          exact h.symm
      · cases h

/-- A message to a socket that somebody receives from is lost only if the system has no room for it. -/
theorem Sender.deliver_of_serves (hcheck : Host.checkSocketPath path = .ok ())
    (hserves : host.Serves socket queued) (hpath : host.store.node true path = .ok (.socket socket))
    (message : Bytes) :
    (messageLimit < message.length ∧ ∃ error, deliver host path message = .error error) ∨
      message.length ≤ messageLimit ∧ ∃ later, deliver host path message = .ok later ∧
        later.Serves socket (queued ++ [message]) ∧ host.SamePlaces later := by
  obtain ⟨access, hendpoint⟩ := hserves
  rw [deliver, hcheck]
  dsimp only
  by_cases hroom : messageLimit < message.length
  · rw [if_pos hroom]
    exact .inl ⟨hroom, _, rfl⟩
  · rw [if_neg hroom]
    simp only [hpath, hendpoint]
    exact .inr ⟨Nat.le_of_not_lt hroom, _, rfl, host.serves_setEndpoint socket access _, rfl, rfl⟩

theorem Sender.deliver_cases (hserves : host.Serves socket queued)
    (hpath : host.store.node true path = .ok (.socket socket)) (message : Bytes) :
    (∃ error, deliver host path message = .error error) ∨ ∃ later, deliver host path message = .ok later ∧
      later.Serves socket (queued ++ [message]) ∧ host.SamePlaces later := by
  cases hcheck : Host.checkSocketPath path with
  | error error => exact .inl ⟨error, by rw [deliver, hcheck]⟩
  | ok _ =>
    rcases deliver_of_serves hcheck hserves hpath message with ⟨-, hlost⟩ | ⟨-, hadded⟩
    · exact .inl hlost
    · exact .inr hadded

namespace Receiver

variable {receiver : Receiver}

theorem receive_of_nil {endpoint : Endpoint}
    (hendpoint : host.endpoints.get? receiver.socket = some endpoint) (hqueue : endpoint.queue = [])
    (size : Nat) :
    receiver.receive host size = (.ok (if endpoint.isWoken then some [] else none), host) := by
  simp [receive, hendpoint, hqueue]

/-- The first message is taken whole if it fits, and is known to be too large if it does not. -/
theorem receive_of_cons {endpoint : Endpoint}
    (hendpoint : host.endpoints.get? receiver.socket = some endpoint)
    (hqueue : endpoint.queue = message :: queued) :
    receiver.receive host receiver.bufferSize
      = (if message.length ≤ receiver.capacity then .ok (some message)
          else .error (.messageTooLarge (receiver.capacity + 1) receiver.capacity),
        host.setEndpoint receiver.socket { endpoint with queue := queued }) := by
  rw [bufferSize, receive, hendpoint]
  by_cases hfits : message.length ≤ receiver.capacity
  · have htaken : message.take (receiver.capacity + 1) = message :=
      List.take_of_length_le (Nat.le_succ_of_le hfits)
    simp [hqueue, htaken, hfits]
  · have htaken : (message.take (receiver.capacity + 1)).length = receiver.capacity + 1 :=
      List.length_take_of_le (Nat.lt_of_not_le hfits)
    simp [hqueue, htaken, hfits]

theorem receive_of_empty (hserves : host.Serves receiver.socket []) (size : Nat) :
    receiver.receive host size = (.ok none, host) := by
  obtain ⟨access, hendpoint⟩ := hserves
  exact receive_of_nil hendpoint rfl size

theorem receive_of_queued (hserves : host.Serves receiver.socket (message :: queued)) :
    ∃ later, later.Serves receiver.socket queued ∧ host.SamePlaces later ∧
      receiver.receive host receiver.bufferSize
        = (if message.length ≤ receiver.capacity then .ok (some message)
          else .error (.messageTooLarge (receiver.capacity + 1) receiver.capacity), later) := by
  obtain ⟨access, hendpoint⟩ := hserves
  exact ⟨_, host.serves_setEndpoint receiver.socket access queued, ⟨rfl, rfl⟩,
    receive_of_cons hendpoint rfl⟩

theorem queueDirectory_clearPath {path : String} {later : Host} (h : clearPath host path = .ok later) :
    later.queueDirectory = host.queueDirectory := by
  rw [clearPath] at h
  split at h
  · split at h
    · cases h
    · cases h
    · obtain rfl := Except.ok.inj h
      rfl
  · cases h
  · obtain rfl := Except.ok.inj h
    rfl

/-- To bind a queue is to make a socket at the path of its name, after that path was cleared. -/
theorem makeSocket_of_bind {name : String} {capacity : Nat} {access : Access} {later : Host}
    (h : bind host name capacity access = (.ok receiver, later)) :
    receiver.capacity = capacity ∧ ∃ cleared : Host,
      resolveName cleared.queueDirectory name = .ok receiver.path ∧
        cleared.makeSocket receiver.path { access } = .ok (receiver.socket, later) := by
  rw [bind] at h
  split at h
  · cases h
  · rename_i path hname
    split at h
    · cases h
    · dsimp only at h
      split at h
      · cases h
      · split at h
        · cases h
        · rename_i socket bound hbind
          obtain ⟨hreceiver, rfl⟩ := Prod.mk.inj h
          obtain rfl := Except.ok.inj hreceiver
          rw [bindPath] at hbind
          split at hbind
          · cases hbind
          · rename_i cleared hclear
            split at hbind
            · cases hbind
            rename_i made hmade
            obtain ⟨hmadeSocket, rfl⟩ := Prod.mk.inj hbind
            obtain rfl := Except.ok.inj hmadeSocket
            refine ⟨rfl, cleared, ?_, hmade⟩
            rw [queueDirectory_clearPath hclear]
            exact hname

/-- A queue that is bound is empty, and its name stands for a path to its socket. -/
theorem of_bind {name : String} {capacity : Nat} {access : Access} {later : Host}
    (h : bind host name capacity access = (.ok receiver, later)) :
    receiver.capacity = capacity ∧ resolveName later.queueDirectory name = .ok receiver.path ∧
      later.store.node true receiver.path = .ok (.socket receiver.socket) ∧
        later.Serves receiver.socket [] := by
  obtain ⟨hcapacity, cleared, hname, hmade⟩ := makeSocket_of_bind h
  obtain ⟨hnode, hendpoint, hdirectory⟩ := Host.of_makeSocket hmade
  refine ⟨hcapacity, ?_, hnode, access, hendpoint⟩
  rw [hdirectory]
  exact hname

theorem checkSocketPath_of_bind {name : String} {capacity : Nat} {access : Access} {later : Host}
    (h : bind host name capacity access = (.ok receiver, later)) :
    Host.checkSocketPath receiver.path = .ok () := by
  obtain ⟨-, cleared, -, hmade⟩ := makeSocket_of_bind h
  cases hcheck : Host.checkSocketPath receiver.path with
  | ok _ => rfl
  | error error =>
    rw [Host.makeSocket, hcheck] at hmade
    cases hmade

end Receiver

end Queue

namespace Port

def ofQueue (address : String) (h : address ≠ "") : Port :=
  ⟨Backend.localQueue.tag, address, by decide, by decide, h⟩

theorem address_ofQueue {address : String} (h : address ≠ "") : (ofQueue address h).address = address := rfl

theorem ofParts_queue {address : String} (h : address ≠ "") :
    ofParts Backend.localQueue.tag address = .ok (ofQueue address h) := by
  simp [ofParts, h, Backend.tag, ofQueue]

theorem backend?_ofQueue {address : String} (h : address ≠ "") :
    (ofQueue address h).backend? = some .localQueue := by
  have htag : Backend.ofTag? Backend.localQueue.tag = some .localQueue := by decide
  exact htag

end Port

namespace Carrier

/-- The carrier is connected to the queue of a socket. -/
def Reaches (host : Host) (socket : Nat) (carrier : Carrier) : Prop :=
  ∃ sender, carrier.transport = some (.queue sender) ∧
    host.store.node true sender.path = .ok (.socket socket)

variable {host later : Host} {socket : Nat} {queued : List Bytes} {carrier : Carrier} {queue path : String}

theorem Reaches.of_samePlaces (h : carrier.Reaches host socket) (hsame : host.SamePlaces later) :
    carrier.Reaches later socket := by
  rw [Reaches, hsame.store]
  exact h

/-- A frame is added at the end of the queue, or it is not sent at all. -/
theorem send_cases (hserves : host.Serves socket queued) (hreaches : carrier.Reaches host socket)
    (frame : Frame) :
    carrier.send host frame = (false, host, carrier) ∨
      ∃ wire later, frame.encode = .ok wire ∧ carrier.send host frame = (true, later, carrier) ∧
        later.Serves socket (queued ++ [wire]) ∧ host.SamePlaces later := by
  obtain ⟨sender, htransport, hpath⟩ := hreaches
  have hcarrier : { carrier with transport := some (.queue sender) } = carrier := by
    rw [← htransport]
  rw [send, htransport]
  cases hencode : frame.encode with
  | error error => exact .inl rfl
  | ok wire =>
    rcases Queue.Sender.deliver_cases hserves hpath wire with ⟨error, hdeliver⟩ | ⟨later, hdeliver, hlater⟩
    · left
      simp [Transport.send, Queue.Sender.send, hdeliver, hcarrier, Except.isOk, Except.toBool]
    · right
      refine ⟨wire, later, rfl, ?_, hlater⟩
      simp [Transport.send, Queue.Sender.send, hdeliver, hcarrier, Except.isOk, Except.toBool]

theorem establish_queue (hname : Queue.resolveName host.queueDirectory queue = .ok path)
    (hqueue : queue ≠ "") (hpath : host.store.node true path = .ok (.socket socket)) (carrier : Carrier) :
    ∃ connected, carrier.establish host (Port.join Backend.localQueue.tag queue)
      = (true, host, connected) ∧ connected.Reaches host socket := by
  have hport : Port.parse (Port.join Backend.localQueue.tag queue) = .ok (Port.ofQueue queue hqueue) := by
    rw [Port.parse_join (by decide), Port.ofParts_queue hqueue]
  refine ⟨{ carrier with
    port := some (Port.ofQueue queue hqueue)
    transport := some (.queue ⟨queue, path⟩) }, ?_, ⟨queue, path⟩, rfl, hpath⟩
  simp [establish, hport, Transport.openSend, Port.backend?_ofQueue, Queue.Sender.open,
    Port.address_ofQueue, hname, Except.map]

end Carrier

end Courier
