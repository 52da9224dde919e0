import Courier.Proofs.Reception.Flow

/-! # Messages settled one at a time

A worker that rests is between two messages. It takes the one message that is queued, has it handled if it
fits, and rests again (`Pool.settle_of_atRest`). To stop a server whose workers rest leaves the state of
its handler as it is (`Server.stop_of_atRest`).
-/

namespace Courier.Reception

/-- Whether a worker is between two messages. -/
def Phase.Rests (phase : Phase) : Prop := phase = .idle ∨ phase = .receiving

/-- Whether a worker does nothing more once its flag is taken away and nothing is queued. -/
def Phase.Leaves : Phase → Prop
  | .idle | .receiving | .holding _ | .done => True
  | _ => False

theorem Phase.Rests.leaves {phase : Phase} (h : phase.Rests) : phase.Leaves := by
  rcases h with rfl | rfl <;> trivial

/-- The state of a handler after a message, of which it is not told if it is too large. -/
def Handler.after {σ : Type} (handler : Handler σ) (capacity : Nat) (message : Bytes) (state : σ) : σ :=
  if message.length ≤ capacity then (handler message state).2 else state

namespace Pool

variable {σ : Type} {handler : Handler σ} {receiver : Queue.Receiver} {pool : Pool} {host : Host} {state : σ}
  {worker : Nat} {phase next : Phase} {tally counted : Tally} {message : Bytes}

def moved (pool : Pool) (worker : Nat) (phase : Phase) (tally : Tally) : Pool :=
  { pool with phases := pool.phases.set worker phase, tally }

@[simp]
theorem running_moved (pool : Pool) (worker : Nat) (phase : Phase) (tally : Tally) :
    (pool.moved worker phase tally).running = pool.running := rfl

@[simp]
theorem tally_moved (pool : Pool) (worker : Nat) (phase : Phase) (tally : Tally) :
    (pool.moved worker phase tally).tally = tally := rfl

theorem moved_self (h : pool.phases[worker]? = some phase) : pool.moved worker phase pool.tally = pool := by
  obtain ⟨hworker, rfl⟩ := List.getElem?_eq_some_iff.1 h
  rw [moved, List.set_getElem_self]

theorem step_moved (hworker : worker < pool.phases.length) {later : Host} {after : σ}
    (h : (pool.moved worker phase tally).advance handler receiver host state phase
      = (next, counted, later, after)) :
    (pool.moved worker phase tally).step handler receiver worker host state
      = (pool.moved worker next counted, later, after) := by
  have hphase : (pool.moved worker phase tally).phases[worker]? = some phase :=
    List.getElem?_set_self hworker
  rw [step, hphase]
  dsimp only
  rw [h]
  simp only [moved, List.set_set]

theorem steps_moved (hworker : worker < pool.phases.length) {later : Host} {after : σ}
    (h : (pool.moved worker phase tally).advance handler receiver host state phase
      = (next, counted, later, after)) (count : Nat) :
    steps handler receiver worker (count + 1) (pool.moved worker phase tally) host state
      = steps handler receiver worker count (pool.moved worker next counted) later after := by
  rw [steps, step_moved hworker h]

section Running

variable (hworker : worker < pool.phases.length) (hrunning : pool.running = true)

include hworker hrunning

theorem steps_of_resting (hserves : host.Serves receiver.socket []) (hrests : phase.Rests)
    (handler : Handler σ) (state : σ) (tally : Tally) (count : Nat) :
    ∃ next, next.Rests ∧
      steps handler receiver worker count (pool.moved worker phase tally) host state
        = (pool.moved worker next tally, host, state) := by
  induction count generalizing phase with
  | zero => exact ⟨phase, hrests, rfl⟩
  | succ count ih =>
    rcases hrests with rfl | rfl
    · obtain ⟨next, hnext, hsteps⟩ := ih (.inr rfl)
      have hbegin : (pool.moved worker .idle tally).advance handler receiver host state .idle
          = (.receiving, tally, host, state) := by
        simp [advance, hrunning]
      exact ⟨next, hnext, by rw [steps_moved hworker hbegin, hsteps]⟩
    · obtain ⟨next, hnext, hsteps⟩ := ih (.inl rfl)
      have hwaited : (pool.moved worker .receiving tally).advance handler receiver host state .receiving
          = (.idle, tally, host, state) := by
        simp [advance, taken, Queue.Receiver.receive_of_empty hserves]
      exact ⟨next, hnext, by rw [steps_moved hworker hwaited, hsteps]⟩

/-- A worker that takes a message is done with it after three more steps at most. -/
theorem steps_of_taking (hserves : host.Serves receiver.socket [message]) (count : Nat) :
    ∃ next counted later, next.Rests ∧ later.Serves receiver.socket [] ∧ host.SamePlaces later ∧
      steps handler receiver worker (count + 4) (pool.moved worker .receiving tally) host state
        = (pool.moved worker next counted, later, handler.after receiver.capacity message state) := by
  obtain ⟨later, hlater, hsame, hreceive⟩ := Queue.Receiver.receive_of_queued hserves
  by_cases hfits : message.length ≤ receiver.capacity
  · rcases hjudged : handler message state with ⟨verdict, after⟩
    have htaken : (pool.moved worker .receiving tally).advance handler receiver host state .receiving
        = (.holding message, tally, later, state) := by
      simp [advance, hreceive, hfits, taken]
    have hreceived : (pool.moved worker (.holding message) tally).advance handler receiver later state
        (.holding message) = (.handling message, tally.receive, later, state) := by
      simp [advance, hrunning, Tally.receive]
    have hhandled : (pool.moved worker (.handling message) tally.receive).advance handler receiver later state
        (.handling message) = (.judged verdict, tally.receive, later, after) := by
      simp [advance, hjudged]
    have hcounted : (pool.moved worker (.judged verdict) tally.receive).advance handler receiver later after
        (.judged verdict) = (.idle, tally.receive.count verdict, later, after) := rfl
    obtain ⟨next, hnext, hsteps⟩ := steps_of_resting hworker hrunning hlater (.inl rfl) handler after
      (tally.receive.count verdict) count
    refine ⟨next, tally.receive.count verdict, later, hnext, hlater, hsame, ?_⟩
    rw [steps_moved hworker htaken, steps_moved hworker hreceived, steps_moved hworker hhandled,
      steps_moved hworker hcounted, Handler.after, if_pos hfits, hjudged]
    exact hsteps
  · have htaken : (pool.moved worker .receiving tally).advance handler receiver host state .receiving
        = (.oversized, tally, later, state) := by
      simp [advance, hreceive, hfits, taken]
    have hreceived : (pool.moved worker .oversized tally).advance handler receiver later state .oversized
        = (.oversizedCounted, tally.receive, later, state) := rfl
    have hcounted : (pool.moved worker .oversizedCounted tally.receive).advance handler receiver later state
        .oversizedCounted = (.idle, { tally.receive with failed := tally.failed + 1 }, later, state) := rfl
    obtain ⟨next, hnext, hsteps⟩ := steps_of_resting hworker hrunning hlater (.inl rfl) handler state
      { tally.receive with failed := tally.failed + 1 } (count + 1)
    refine ⟨next, { tally.receive with failed := tally.failed + 1 }, later, hnext, hlater, hsame, ?_⟩
    rw [steps_moved hworker htaken, steps_moved hworker hreceived, steps_moved hworker hcounted,
      Handler.after, if_neg hfits]
    exact hsteps

/-- A worker that rests is done with the one message that is queued after five steps. -/
theorem steps_of_message (hserves : host.Serves receiver.socket [message]) (hrests : phase.Rests) (count : Nat) :
    ∃ next counted later, next.Rests ∧ later.Serves receiver.socket [] ∧ host.SamePlaces later ∧
      steps handler receiver worker (count + 5) (pool.moved worker phase tally) host state
        = (pool.moved worker next counted, later, handler.after receiver.capacity message state) := by
  rcases hrests with rfl | rfl
  · have hbegin : (pool.moved worker .idle tally).advance handler receiver host state .idle
        = (.receiving, tally, host, state) := by
      simp [advance, hrunning]
    rw [steps_moved hworker hbegin]
    exact steps_of_taking hworker hrunning hserves count
  · exact steps_of_taking hworker hrunning hserves (count + 1)

end Running

structure AtRest (pool : Pool) : Prop where
  running : pool.running = true
  staffed : pool.phases ≠ []
  rests : ∀ phase ∈ pool.phases, phase.Rests

theorem AtRest.moved (h : pool.AtRest) (worker : Nat) {next : Phase} (hnext : next.Rests) (tally : Tally) :
    (pool.moved worker next tally).AtRest where
  running := h.running
  staffed := by
    intro hnil
    exact h.staffed ((List.set_eq_nil_iff _ _).1 hnil)
  rests := by
    intro phase hphase
    rcases List.mem_or_eq_of_mem_set hphase with hold | rfl
    · exact h.rests phase hold
    · exact hnext

theorem settle_of_atRest (h : pool.AtRest) (hserves : host.Serves receiver.socket [message])
    (handler : Handler σ) (state : σ) :
    ∃ settled later, settled.AtRest ∧ later.Serves receiver.socket [] ∧ host.SamePlaces later ∧
      pool.settle handler receiver host state
        = (settled, later, handler.after receiver.capacity message state) := by
  have hworker : 0 < pool.phases.length := List.length_pos_iff.2 h.staffed
  have hrests : pool.phases[0].Rests := h.rests _ (List.getElem_mem hworker)
  obtain ⟨next, counted, later, hnext, hlater, hsame, hsteps⟩ :=
    steps_of_message hworker h.running hserves hrests 5
  rw [moved_self (List.getElem?_eq_getElem hworker)] at hsteps
  refine ⟨_, later, h.moved 0 hnext counted, hlater, hsame, ?_⟩
  obtain ⟨access, hendpoint⟩ := hserves
  rw [settle, hendpoint]
  exact hsteps

/-- Whether no worker of a pool has anything more to do. -/
structure Ends (pool : Pool) : Prop where
  stopped : pool.running = false
  leaves : ∀ phase ∈ pool.phases, phase.Leaves

theorem Ends.step (h : pool.Ends) {endpoint : Endpoint}
    (hendpoint : host.endpoints.get? receiver.socket = some endpoint) (hqueue : endpoint.queue = [])
    (handler : Handler σ) (state : σ) (worker : Nat) :
    ∃ left, left.Ends ∧ pool.step handler receiver worker host state = (left, host, state) := by
  rw [Pool.step]
  split
  · exact ⟨pool, h, rfl⟩
  · rename_i phase hphase
    have hleaves : phase.Leaves := h.leaves phase (List.mem_of_getElem? hphase)
    have hset (next : Phase) (hnext : next.Leaves) :
        Ends { pool with phases := pool.phases.set worker next } :=
      ⟨h.stopped, fun other hother => (List.mem_or_eq_of_mem_set hother).elim (h.leaves other) (· ▸ hnext)⟩
    cases phase with
    | idle | done | holding => exact ⟨_, hset .done trivial, by simp [advance, h.stopped]⟩
    | receiving =>
      rw [advance, Queue.Receiver.receive_of_nil hendpoint hqueue]
      cases endpoint.isWoken
      · exact ⟨_, hset .idle trivial, rfl⟩
      · exact ⟨_, hset (.holding []) trivial, rfl⟩
    | handling | judged | oversized | oversizedCounted => cases hleaves

theorem Ends.steps (h : pool.Ends) {endpoint : Endpoint}
    (hendpoint : host.endpoints.get? receiver.socket = some endpoint) (hqueue : endpoint.queue = [])
    (handler : Handler σ) (state : σ) (worker count : Nat) :
    ∃ left, left.Ends ∧ Pool.steps handler receiver worker count pool host state = (left, host, state) := by
  induction count generalizing pool with
  | zero => exact ⟨pool, h, rfl⟩
  | succ count ih =>
    obtain ⟨next, hnext, hstep⟩ := h.step hendpoint hqueue handler state worker
    obtain ⟨left, hleft, hsteps⟩ := ih hnext
    refine ⟨left, hleft, ?_⟩
    rw [Pool.steps, hstep]
    exact hsteps

theorem Ends.finish (h : pool.Ends) {endpoint : Endpoint}
    (hendpoint : host.endpoints.get? receiver.socket = some endpoint) (hqueue : endpoint.queue = [])
    (handler : Handler σ) (state : σ) :
    ∃ left, left.Ends ∧ pool.finish handler receiver host state = (left, host, state) := by
  rw [Pool.finish]
  generalize List.range pool.phases.length = workers
  induction workers generalizing pool with
  | nil => exact ⟨pool, h, rfl⟩
  | cons worker workers ih =>
    obtain ⟨next, hnext, hsteps⟩ := h.steps hendpoint hqueue handler state worker (stepsPerMessage + 1)
    obtain ⟨left, hleft, hrest⟩ := ih hnext
    refine ⟨left, hleft, ?_⟩
    rw [List.foldl_cons]
    dsimp only
    rw [hsteps]
    exact hrest

end Pool

/-- To stop a server at rest, with nothing queued, calls its handler no more. -/
theorem Server.stop_of_atRest {σ : Type} {server : Server} {receiver : Queue.Receiver} {host : Host}
    (hqueue : server.queue = some receiver) (hrest : server.pool.AtRest)
    (hserves : host.Serves receiver.socket []) (handler : Handler σ) (state : σ) :
    ∃ next later, server.stop handler host state = (next, later, state) := by
  obtain ⟨access, hendpoint⟩ := hserves
  have hends : Pool.Ends { server.pool with running := false } :=
    ⟨rfl, fun phase hphase => (hrest.rests phase hphase).leaves⟩
  have hwoken : (receiver.wake host).endpoints.get? receiver.socket
      = some { access, isWoken := true, queue := [] } := by
    rw [Queue.Receiver.wake, hendpoint]
    exact Table.get?_insert_self _ _ _
  obtain ⟨left, -, hfinish⟩ := hends.finish hwoken rfl handler state
  rw [stop, hqueue]
  dsimp only
  rw [hfinish]
  exact ⟨_, _, rfl⟩

end Courier.Reception
