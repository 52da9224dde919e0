import Courier.Proofs.Queue.Ownership
import Courier.Reception.Server

/-! # What workers leave alone

Whatever a handler answers, the workers of a pool change nothing on a host but what is at their own socket,
and their tally only grows (`Pool.Goes`). So for the host to stop a server is to drop its receiver.
-/

namespace Courier

namespace Host

variable {host middle later : Host} {socket : Nat} {queued : List Bytes}

/-- Whether two hosts are the same but for what is at one socket. -/
structure SameBut (socket : Nat) (host later : Host) : Prop where
  endpoints : ∀ {id : Nat}, id ≠ socket → later.endpoints.get? id = host.endpoints.get? id
  rest : later = { host with endpoints := later.endpoints }

theorem SameBut.refl (socket : Nat) (host : Host) : SameBut socket host host := ⟨fun _ => rfl, rfl⟩

theorem SameBut.trans (h : SameBut socket host middle) (hlater : SameBut socket middle later) :
    SameBut socket host later :=
  ⟨fun hne => (hlater.endpoints hne).trans (h.endpoints hne), by rw [hlater.rest, h.rest]⟩

theorem sameBut_setEndpoint (host : Host) (socket : Nat) (endpoint : Endpoint) :
    SameBut socket host (host.setEndpoint socket endpoint) :=
  ⟨fun hne => Table.get?_insert_of_ne _ _ hne, rfl⟩

theorem SameBut.store (h : SameBut socket host later) : later.store = host.store := by
  rw [h.rest]

theorem SameBut.serves (h : SameBut socket host later) {other : Nat} (hne : other ≠ socket)
    (hserves : host.Serves other queued) : later.Serves other queued := by
  obtain ⟨access, hendpoint⟩ := hserves
  exact ⟨access, (h.endpoints hne).trans hendpoint⟩

/-- What happens at a live socket brings no other one to life. -/
theorem SameBut.isLive (h : SameBut socket host later) (hlive : host.isLive socket = true) (id : Nat)
    (hlater : later.isLive id = true) : host.isLive id = true := by
  by_cases hid : id = socket
  · rw [hid, hlive]
  · rwa [Host.isLive, h.endpoints hid] at hlater

end Host

namespace Queue.Receiver

variable {host later : Host} {receiver : Receiver}

theorem sameBut_receive (host : Host) (receiver : Receiver) (size : Nat) :
    host.SameBut receiver.socket (receiver.receive host size).2 := by
  rw [receive]
  split
  · exact .refl _ _
  · split
    · exact .refl _ _
    · dsimp only
      split <;> exact host.sameBut_setEndpoint _ _

/-- Receiving leaves the receiver as it is. -/
theorem serves_receive {queued : List Bytes} (hserves : host.Serves receiver.socket queued) (size : Nat) :
    ∃ left, (receiver.receive host size).2.Serves receiver.socket left := by
  obtain ⟨access, hendpoint⟩ := hserves
  rw [receive, hendpoint]
  cases queued with
  | nil => exact ⟨[], access, hendpoint⟩
  | cons message queued =>
    dsimp only
    split <;> exact ⟨queued, host.serves_setEndpoint receiver.socket access queued⟩

theorem sameBut_wake (host : Host) (receiver : Receiver) :
    host.SameBut receiver.socket (receiver.wake host) := by
  rw [wake]
  split
  · exact .refl _ _
  · exact host.sameBut_setEndpoint _ _

/-- It is all the same to a host what was at the socket of a receiver that is dropped. -/
theorem drop_of_sameBut (h : host.SameBut receiver.socket later) :
    receiver.drop later = receiver.drop host := by
  have hendpoints : later.endpoints.erase receiver.socket = host.endpoints.erase receiver.socket := by
    ext id
    by_cases hsocket : id = receiver.socket
    · simp [hsocket]
    · rw [Table.get?_erase_of_ne _ hsocket, Table.get?_erase_of_ne _ hsocket, h.endpoints hsocket]
  rw [drop, drop, hendpoints, h.rest]

end Queue.Receiver

namespace Reception

/-- Whether nothing that was counted is taken back. -/
structure Tally.Grows (tally later : Tally) : Prop where
  received : tally.received ≤ later.received
  accepted : tally.accepted ≤ later.accepted
  rejected : tally.rejected ≤ later.rejected
  failed : tally.failed ≤ later.failed

theorem Tally.Grows.refl (tally : Tally) : tally.Grows tally := by
  constructor <;> exact Nat.le_refl _

theorem Tally.Grows.trans {tally middle later : Tally} (h : tally.Grows middle) (hlater : middle.Grows later) :
    tally.Grows later := by
  obtain ⟨hreceived, haccepted, hrejected, hfailed⟩ := h
  obtain ⟨hreceived', haccepted', hrejected', hfailed'⟩ := hlater
  constructor <;> omega

theorem Tally.grows_count (tally : Tally) (verdict : Verdict) : tally.Grows (tally.count verdict) := by
  cases verdict <;> constructor <;> simp [count]

namespace Pool

variable {σ : Type} {socket : Nat} {pool middle later : Pool} {host between after : Host}

/-- How far a pool goes that works at a socket. -/
structure Goes (socket : Nat) (pool later : Pool) (host after : Host) : Prop where
  host : host.SameBut socket after
  tally : pool.tally.Grows later.tally
  running : later.running = pool.running
  workers : later.phases.length = pool.phases.length

theorem Goes.refl (socket : Nat) (pool : Pool) (host : Host) : Goes socket pool pool host host :=
  ⟨.refl _ _, .refl _, rfl, rfl⟩

theorem Goes.trans (h : Goes socket pool middle host between)
    (hlater : Goes socket middle later between after) :
    Goes socket pool later host after :=
  ⟨h.host.trans hlater.host, h.tally.trans hlater.tally, hlater.running.trans h.running,
    hlater.workers.trans h.workers⟩

variable (handler : Handler σ) (receiver : Queue.Receiver)

theorem advance_goes (pool : Pool) (host : Host) (state : σ) (phase : Phase) :
    pool.tally.Grows (pool.advance handler receiver host state phase).2.1 ∧
      host.SameBut receiver.socket (pool.advance handler receiver host state phase).2.2.1 := by
  cases phase with
  | idle | handling | done => exact ⟨.refl _, .refl _ _⟩
  | receiving => exact ⟨.refl _, receiver.sameBut_receive host _⟩
  | holding message =>
    rw [advance]
    split
    · exact ⟨⟨Nat.le_succ _, Nat.le_refl _, Nat.le_refl _, Nat.le_refl _⟩, .refl _ _⟩
    · exact ⟨.refl _, .refl _ _⟩
  | judged verdict => exact ⟨pool.tally.grows_count verdict, .refl _ _⟩
  | oversized => exact ⟨⟨Nat.le_succ _, Nat.le_refl _, Nat.le_refl _, Nat.le_refl _⟩, .refl _ _⟩
  | oversizedCounted => exact ⟨⟨Nat.le_refl _, Nat.le_refl _, Nat.le_refl _, Nat.le_succ _⟩, .refl _ _⟩

theorem goes_step (worker : Nat) (pool : Pool) (host : Host) (state : σ) :
    Goes receiver.socket pool (pool.step handler receiver worker host state).1 host
      (pool.step handler receiver worker host state).2.1 := by
  rw [step]
  split
  · exact .refl _ _ _
  · rename_i phase hphase
    obtain ⟨htally, hhost⟩ := advance_goes handler receiver pool host state phase
    exact ⟨hhost, htally, rfl, List.length_set⟩

theorem serves_step {queued : List Bytes} (worker : Nat) (pool : Pool) (host : Host) (state : σ)
    (hserves : host.Serves receiver.socket queued) :
    ∃ left, (pool.step handler receiver worker host state).2.1.Serves receiver.socket left := by
  rw [step]
  split
  · exact ⟨queued, hserves⟩
  · rename_i phase hphase
    cases phase with
    | receiving => exact Queue.Receiver.serves_receive hserves _
    | holding message =>
      simp only [advance]
      split <;> exact ⟨queued, hserves⟩
    | _ => exact ⟨queued, hserves⟩

theorem goes_steps (worker count : Nat) (pool : Pool) (host : Host) (state : σ) :
    Goes receiver.socket pool (steps handler receiver worker count pool host state).1 host
      (steps handler receiver worker count pool host state).2.1 := by
  induction count generalizing pool host state with
  | zero => exact .refl _ _ _
  | succ count ih => exact (goes_step handler receiver worker pool host state).trans (ih _ _ _)

theorem goes_finish (pool : Pool) (host : Host) (state : σ) :
    Goes receiver.socket pool (pool.finish handler receiver host state).1 host
      (pool.finish handler receiver host state).2.1 := by
  rw [finish]
  generalize List.range pool.phases.length = workers
  induction workers generalizing pool host state with
  | nil => exact .refl _ _ _
  | cons worker workers ih =>
    rw [List.foldl_cons]
    exact (goes_steps handler receiver worker (stepsPerMessage + 1) pool host state).trans (ih _ _ _)

end Pool

namespace Server

variable {σ : Type} {server : Server} {receiver : Queue.Receiver}

/-- To stop a server that does not run changes nothing, as its flag is gone already. -/
theorem stop_of_stopped (handler : Handler σ) (host : Host) (state : σ) (hqueue : server.queue = none)
    (hflag : server.pool.running = false) : server.stop handler host state = (server, host, state) := by
  rw [stop, hqueue]
  dsimp only
  rw [← hflag, ← hqueue]

/-- For the host, to stop a server is to drop its receiver. -/
theorem stop_of_running (handler : Handler σ) (host : Host) (state : σ)
    (hqueue : server.queue = some receiver) :
    ∃ pool left, server.stop handler host state
        = ({ server with queue := none, pool }, receiver.drop host, left) ∧
      pool.running = false ∧ pool.phases = [] ∧ server.pool.tally.Grows pool.tally := by
  rw [stop, hqueue]
  dsimp only
  have hgoes := Pool.goes_finish handler receiver { server.pool with running := false }
    (receiver.wake host) state
  have hdrop := Queue.Receiver.drop_of_sameBut ((receiver.sameBut_wake host).trans hgoes.host)
  rw [hdrop]
  exact ⟨_, _, rfl, hgoes.running, rfl, hgoes.tally⟩

theorem stop_cases {handler : Handler σ} {host later : Host} {state left : σ} {next : Server}
    (hflag : server.queue = none → server.pool.running = false)
    (h : server.stop handler host state = (next, later, left)) :
    (server.queue = none ∧ next = server ∧ later = host ∧ left = state) ∨
      ∃ receiver pool, server.queue = some receiver ∧ next = { server with queue := none, pool } ∧
        later = receiver.drop host ∧ pool.running = false := by
  cases hqueue : server.queue with
  | none =>
    rw [stop_of_stopped handler host state hqueue (hflag hqueue)] at h
    obtain ⟨rfl, rfl, rfl⟩ := by simpa using h
    exact .inl ⟨rfl, rfl, rfl, rfl⟩
  | some receiver =>
    obtain ⟨pool, ended, hstop, hrunning, -⟩ := stop_of_running handler host state hqueue
    rw [hstop] at h
    obtain ⟨rfl, rfl, -⟩ := by simpa using h
    exact .inr ⟨receiver, pool, rfl, rfl, rfl, hrunning⟩

end Server

end Reception

end Courier
