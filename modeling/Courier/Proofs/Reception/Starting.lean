import Courier.Proofs.Queue.Passing
import Courier.Reception.Server

/-! # Starting a server

To start a server is to bind its address to a queue: the server runs if that succeeds, and is what it was if
it fails (`Server.start_cases`). A server that runs is not started again. Workers wait for a millisecond at
least, so no poll interval stands in the way, and threads for them are taken to be had.
-/

namespace Courier.Reception.Server

variable {host later : Host} {server next : Server} {receiver : Queue.Receiver}

def started (server : Server) (receiver : Queue.Receiver) : Server :=
  { server with
    queue := some receiver
    pool := { server.pool with
      running := true
      phases := List.replicate (max server.config.workers 1) (if receiver.hasBuffer then .idle else .done) } }

theorem queue_eq_none (h : server.isRunning = false) : server.queue = none :=
  Option.isNone_iff_eq_none.1 (Option.isSome_eq_false_iff.1 h)

theorem start_of_running (h : server.isRunning = true) (host : Host) :
    server.start host = (.error (.alreadyRunning server.address), host, server) := by
  rw [start, if_pos h]

theorem openQueue_cases (server : Server) (host : Host) :
    (∃ error cause later, server.openQueue host = (.error error, later) ∧
        Queue.Receiver.bind host server.address server.config.capacity server.access
          = (.error cause, later)) ∨
      ∃ receiver later, server.openQueue host = (.ok receiver, later) ∧
        Queue.Receiver.bind host server.address server.config.capacity server.access
          = (.ok receiver, later) := by
  by_cases haddress : server.address = ""
  · simp only [openQueue, haddress]
    exact .inl ⟨_, _, host, rfl, rfl⟩
  · have hport : Transport.portOfParts Backend.localQueue.tag server.address
        = .ok (Port.ofQueue server.address haddress) := by
      rw [Transport.portOfParts, Port.ofParts_queue haddress]
      rfl
    rw [openQueue, hport]
    simp only [Transport.openReceive, Port.backend?_ofQueue, Port.address_ofQueue]
    rcases Queue.Receiver.bind host server.address server.config.capacity server.access with
      ⟨cause | receiver, later⟩
    · exact .inl ⟨_, cause, later, rfl, rfl⟩
    · exact .inr ⟨receiver, later, rfl, rfl⟩

/-- A start is refused by a server that runs, fails if its address cannot be bound, or gets a receiver. -/
theorem start_cases {outcome : Except Error Unit} (h : server.start host = (outcome, later, next)) :
    (server.isRunning = true ∧ outcome = .error (.alreadyRunning server.address) ∧ later = host ∧
        next = server) ∨
      (server.queue = none ∧ ∃ error cause, outcome = .error error ∧ next = server ∧
        Queue.Receiver.bind host server.address server.config.capacity server.access
          = (.error cause, later)) ∨
      server.queue = none ∧ ∃ receiver, outcome = .ok () ∧ next = server.started receiver ∧
        Queue.Receiver.bind host server.address server.config.capacity server.access
          = (.ok receiver, later) := by
  cases hrunning : server.isRunning with
  | true =>
    rw [start_of_running hrunning] at h
    obtain ⟨rfl, rfl, rfl⟩ := by simpa using h
    exact .inl ⟨rfl, rfl, rfl, rfl⟩
  | false =>
    have hqueue := queue_eq_none hrunning
    rw [start, if_neg (by simp [hrunning])] at h
    right
    rcases server.openQueue_cases host with
      ⟨error, cause, bound, hopen, hbind⟩ | ⟨receiver, bound, hopen, hbind⟩
    · rw [hopen] at h
      obtain ⟨rfl, rfl, rfl⟩ := by simpa using h
      exact .inl ⟨hqueue, error, cause, rfl, rfl, hbind⟩
    · rw [hopen] at h
      simp only [ServerConfig.setReadTimeout_readTimeout] at h
      obtain ⟨rfl, rfl, rfl⟩ := by simpa using h
      exact .inr ⟨hqueue, receiver, rfl, rfl, hbind⟩

end Courier.Reception.Server
