import Courier.Proofs.Reception.Flow

/-! # The workers of a pool at work

A `Shift` is a pool with its queue while messages are sent to it, its workers take steps in any order, and
a request to stop comes at any time. What happens is observed from outside: `observe` compares two states,
and `stride_of_work` says what a worker at each phase of its loop is seen to do by its next step.
-/

namespace Courier.Reception

inductive Counter where
  | received
  | accepted
  | rejected
  | failed
deriving DecidableEq

def Verdict.counter : Verdict → Counter
  | accepted => .accepted
  | rejected => .rejected
  | panicked _ => .failed

def Tally.growth (before after : Tally) : List Counter :=
  List.replicate (after.received - before.received) .received ++
    List.replicate (after.accepted - before.accepted) .accepted ++
    List.replicate (after.rejected - before.rejected) .rejected ++
    List.replicate (after.failed - before.failed) .failed

def Tally.plus (tally : Tally) (counters : List Counter) : Tally where
  received := tally.received + counters.count .received
  accepted := tally.accepted + counters.count .accepted
  rejected := tally.rejected + counters.count .rejected
  failed := tally.failed + counters.count .failed

theorem Tally.plus_append (tally : Tally) (counters others : List Counter) :
    tally.plus (counters ++ others) = (tally.plus counters).plus others := by
  simp [plus, List.count_append, Nat.add_assoc]

theorem Tally.count_eq_plus (tally : Tally) (verdict : Verdict) :
    tally.count verdict = tally.plus [verdict.counter] := by
  cases verdict <;> simp [count, plus, Verdict.counter]

/-- Something that can be seen of a shift. -/
inductive Deed where
  /-- A message has come to the end of the queue. -/
  | arrived (message : Bytes)
  /-- A message has been taken off the queue. -/
  | took (message : Bytes)
  /-- The handler was given a message, and that was its verdict. -/
  | handed (message : Bytes) (verdict : Verdict)
  | counted (counter : Counter)
deriving DecidableEq

namespace Deed

def arrived? : Deed → Option Bytes
  | arrived message => some message
  | _ => none

def took? : Deed → Option Bytes
  | took message => some message
  | _ => none

def handed? : Deed → Option (Bytes × Verdict)
  | handed message verdict => some (message, verdict)
  | _ => none

def counter? : Deed → Option Counter
  | counted counter => some counter
  | _ => none

end Deed

/-- A handler that keeps a list of the messages it was given, with its verdicts. -/
def Handler.logged {σ : Type} (handler : Handler σ) : Handler (σ × List (Bytes × Verdict)) :=
  fun message (state, calls) =>
    let (verdict, state) := handler message state
    (verdict, state, calls ++ [(message, verdict)])

structure Shift (σ : Type) where
  host : Host
  pool : Pool
  state : σ
  calls : List (Bytes × Verdict) := []

inductive Event where
  | send (path : String) (message : Bytes)
  /-- A worker takes its next step. -/
  | work (worker : Nat)
  /-- A worker waits for a message in vain: until its time is over, or because of an error. -/
  | fault (worker : Nat) (error? : Option IoError)
  /-- A request to stop takes its next step: it takes the flag away, and then wakes the workers. -/
  | stop

def Event.worker? : Event → Option Nat
  | work worker => some worker
  | send .. | fault .. | stop => none

namespace Shift

variable {σ : Type}

def act (handler : Handler σ) (receiver : Queue.Receiver) (shift : Shift σ) : Event → Shift σ
  | .send path message =>
    match Queue.Sender.deliver shift.host path message with
    | .error _ => shift
    | .ok host => { shift with host }
  | .work worker =>
    let (pool, host, state, calls) :=
      shift.pool.step handler.logged receiver worker shift.host (shift.state, shift.calls)
    { host, pool, state, calls }
  | .fault worker error? =>
    if shift.pool.phases[worker]? = some .receiving then
      let outcome := match error? with
        | none => .ok none
        | some error => .error (.io error)
      { shift with pool :=
        { shift.pool with phases := shift.pool.phases.set worker (Pool.taken outcome) } }
    else shift
  | .stop =>
    if shift.pool.running then { shift with pool := { shift.pool with running := false } }
    else { shift with host := receiver.wake shift.host }

/-- What is seen to have happened between two states. -/
def observe (receiver : Queue.Receiver) (before after : Shift σ) : List Deed :=
  let queued := before.host.queued receiver.socket
  let left := after.host.queued receiver.socket
  (left.drop queued.length).map .arrived ++
    (queued.take (queued.length - left.length)).map .took ++
    (after.calls.drop before.calls.length).map (fun call => .handed call.1 call.2) ++
    (before.pool.tally.growth after.pool.tally).map .counted

def run (handler : Handler σ) (receiver : Queue.Receiver) :
    List Event → Shift σ → List (Event × List Deed) × Shift σ
  | [], shift => ([], shift)
  | event :: events, shift =>
    let next := shift.act handler receiver event
    let (trace, last) := run handler receiver events next
    ((event, observe receiver shift next) :: trace, last)

/-- The queue is there, and its receivers are not woken before the flag is taken away. -/
def IsOpen (receiver : Queue.Receiver) (shift : Shift σ) : Prop :=
  ∃ endpoint, shift.host.endpoints.get? receiver.socket = some endpoint ∧
    (endpoint.isWoken = true → shift.pool.running = false)

/-- What a worker at some phase does by its next step, and its phase after it. -/
inductive Stride (receiver : Queue.Receiver) (running : Bool) : Phase → Phase → List Deed → Prop
  | begin (hrunning : running = true) : Stride receiver running .idle .receiving []
  | leave (hrunning : running = false) : Stride receiver running .idle .done []
  | take {message : Bytes} (hfits : message.length ≤ receiver.capacity) :
      Stride receiver running .receiving (.holding message) [.took message]
  | takeLarge {message : Bytes} (hlarge : receiver.capacity < message.length) :
      Stride receiver running .receiving .oversized [.took message]
  | wait : Stride receiver running .receiving .idle []
  /-- An empty message that nobody has sent. -/
  | woken (hrunning : running = false) : Stride receiver running .receiving (.holding []) []
  | receive {message : Bytes} (hrunning : running = true) :
      Stride receiver running (.holding message) (.handling message) [.counted .received]
  | dismiss {message : Bytes} (hrunning : running = false) :
      Stride receiver running (.holding message) .done []
  | handle {message : Bytes} {verdict : Verdict} :
      Stride receiver running (.handling message) (.judged verdict) [.handed message verdict]
  | settle {verdict : Verdict} :
      Stride receiver running (.judged verdict) .idle [.counted verdict.counter]
  | receiveLarge : Stride receiver running .oversized .oversizedCounted [.counted .received]
  | settleLarge : Stride receiver running .oversizedCounted .idle [.counted .failed]
  | rest : Stride receiver running .done .done []

/-- What one step changes, as far as it is seen. -/
structure Moved (receiver : Queue.Receiver) (before after : Shift σ) (deeds : List Deed) : Prop where
  observed : observe receiver before after = deeds
  calls : after.calls = before.calls ++ deeds.filterMap Deed.handed?
  tally : after.pool.tally = before.pool.tally.plus (deeds.filterMap Deed.counter?)
  queued : before.host.queued receiver.socket ++ deeds.filterMap Deed.arrived?
    = deeds.filterMap Deed.took? ++ after.host.queued receiver.socket

variable {receiver : Queue.Receiver} {before after shift : Shift σ}

theorem moved_counted (hhost : after.host = before.host) (hcalls : after.calls = before.calls)
    {counter : Counter} (htally : after.pool.tally = before.pool.tally.plus [counter]) :
    Moved receiver before after [.counted counter] := by
  refine ⟨?_, by simp [hcalls, Deed.handed?], htally, ?_⟩
  · cases counter <;> simp [observe, Tally.growth, Tally.plus, hhost, hcalls, htally]
  · simp [hhost, List.filterMap_cons, Deed.took?, Deed.arrived?]

theorem moved_nothing (hqueued : after.host.queued receiver.socket = before.host.queued receiver.socket)
    (hcalls : after.calls = before.calls) (htally : after.pool.tally = before.pool.tally) :
    Moved receiver before after [] := by
  refine ⟨?_, by simp [hcalls], htally, by simp [hqueued]⟩
  simp [observe, Tally.growth, hqueued, hcalls, htally]

theorem moved_took {message : Bytes}
    (hqueued : before.host.queued receiver.socket = message :: after.host.queued receiver.socket)
    (hcalls : after.calls = before.calls) (htally : after.pool.tally = before.pool.tally) :
    Moved receiver before after [.took message] := by
  refine ⟨?_, by simp [hcalls, Deed.handed?], htally, by simp [hqueued, Deed.took?, Deed.arrived?]⟩
  simp [observe, Tally.growth, hqueued, hcalls, htally]

theorem moved_handed (hhost : after.host = before.host) {message : Bytes} {verdict : Verdict}
    (hcalls : after.calls = before.calls ++ [(message, verdict)])
    (htally : after.pool.tally = before.pool.tally) :
    Moved receiver before after [.handed message verdict] := by
  refine ⟨?_, by simp [hcalls, Deed.handed?], htally, ?_⟩
  · simp [observe, Tally.growth, hhost, hcalls, htally]
  · simp [hhost, List.filterMap_cons, Deed.took?, Deed.arrived?]

theorem moved_arrived {message : Bytes}
    (hqueued : after.host.queued receiver.socket = before.host.queued receiver.socket ++ [message])
    (hcalls : after.calls = before.calls) (htally : after.pool.tally = before.pool.tally) :
    Moved receiver before after [.arrived message] := by
  refine ⟨?_, by simp [hcalls, Deed.handed?], htally, by simp [hqueued, Deed.took?, Deed.arrived?]⟩
  simp [observe, Tally.growth, hqueued, hcalls, htally]

theorem act_work (handler : Handler σ) {worker : Nat} {phase next : Phase} {tally : Tally} {host : Host}
    {state : σ} {calls : List (Bytes × Verdict)} (hphase : shift.pool.phases[worker]? = some phase)
    (hadvance : shift.pool.advance handler.logged receiver shift.host (shift.state, shift.calls) phase
      = (next, tally, host, state, calls)) :
    shift.act handler receiver (.work worker)
      = ⟨host, { shift.pool with phases := shift.pool.phases.set worker next, tally }, state, calls⟩ := by
  simp [act, Pool.step, hphase, hadvance]

theorem stride_of_receiving (handler : Handler σ) {worker : Nat}
    (hphase : shift.pool.phases[worker]? = some .receiving) (hopen : shift.IsOpen receiver) :
    ∃ next deeds host, shift.act handler receiver (.work worker)
        = { shift with host, pool := { shift.pool with phases := shift.pool.phases.set worker next } } ∧
      Stride receiver shift.pool.running .receiving next deeds ∧
      Moved receiver shift (shift.act handler receiver (.work worker)) deeds ∧
      (shift.act handler receiver (.work worker)).IsOpen receiver := by
  obtain ⟨endpoint, hendpoint, hwoken⟩ := hopen
  cases hqueue : endpoint.queue with
  | nil =>
    have hreceive := Queue.Receiver.receive_of_nil hendpoint hqueue receiver.bufferSize
    have hact := act_work handler hphase (by rw [Pool.advance, hreceive])
    rw [hact]
    refine ⟨_, [], _, rfl, ?_, moved_nothing rfl rfl rfl, endpoint, hendpoint, hwoken⟩
    cases hflag : endpoint.isWoken with
    | false => exact .wait
    | true => exact .woken (hwoken hflag)
  | cons message queued =>
    have hreceive := Queue.Receiver.receive_of_cons hendpoint hqueue
    have hact := act_work handler hphase (by rw [Pool.advance, hreceive])
    have hbefore : shift.host.queued receiver.socket = message :: queued := by
      rw [Host.queued, hendpoint, Option.map_some, hqueue, Option.getD_some]
    have hafter : (shift.host.setEndpoint receiver.socket { endpoint with queue := queued }).queued
        receiver.socket = queued := by
      simp [Host.queued, Host.setEndpoint]
    rw [hact]
    refine ⟨_, [.took message], _, rfl, ?_, moved_took (by rw [hbefore, hafter]) rfl rfl, _,
      Table.get?_insert_self _ _ _, hwoken⟩
    by_cases hfits : message.length ≤ receiver.capacity
    · rw [if_pos hfits]
      exact .take hfits
    · rw [if_neg hfits]
      exact .takeLarge (Nat.lt_of_not_le hfits)

/-- The next step of a worker is the stride for its phase, and all that is seen is what the stride says. -/
theorem stride_of_work (handler : Handler σ) {worker : Nat} {phase : Phase}
    (hphase : shift.pool.phases[worker]? = some phase) (hopen : shift.IsOpen receiver) :
    ∃ next deeds, Stride receiver shift.pool.running phase next deeds ∧
      (shift.act handler receiver (.work worker)).pool.phases = shift.pool.phases.set worker next ∧
      (shift.act handler receiver (.work worker)).pool.running = shift.pool.running ∧
      Moved receiver shift (shift.act handler receiver (.work worker)) deeds ∧
      (shift.act handler receiver (.work worker)).IsOpen receiver := by
  cases phase with
  | receiving =>
    obtain ⟨next, deeds, host, hact, hstride, hmoved, hnext⟩ :=
      stride_of_receiving handler hphase hopen
    exact ⟨next, deeds, hstride, by rw [hact], by rw [hact], hmoved, hnext⟩
  | idle =>
    rw [act_work handler hphase rfl]
    refine ⟨_, _, ?_, rfl, rfl, moved_nothing rfl rfl rfl, hopen⟩
    cases hrunning : shift.pool.running with
    | true => exact .begin rfl
    | false => exact .leave rfl
  | holding message =>
    cases hrunning : shift.pool.running with
    | true =>
      rw [act_work handler hphase (by rw [Pool.advance, if_pos hrunning])]
      refine ⟨_, _, .receive rfl, rfl, hrunning, ?_, hopen⟩
      apply moved_counted <;> rfl
    | false =>
      rw [act_work handler hphase (by rw [Pool.advance, if_neg (by simp [hrunning])])]
      exact ⟨_, _, .dismiss rfl, rfl, hrunning, moved_nothing rfl rfl rfl, hopen⟩
  | handling message =>
    rw [act_work handler hphase rfl]
    refine ⟨_, _, .handle, rfl, rfl, ?_, hopen⟩
    apply moved_handed <;> rfl
  | judged verdict =>
    rw [act_work handler hphase rfl]
    refine ⟨_, _, .settle, rfl, rfl, ?_, hopen⟩
    apply moved_counted
    · rfl
    · rfl
    · exact shift.pool.tally.count_eq_plus verdict
  | oversized =>
    rw [act_work handler hphase rfl]
    refine ⟨_, _, .receiveLarge, rfl, rfl, ?_, hopen⟩
    apply moved_counted <;> rfl
  | oversizedCounted =>
    rw [act_work handler hphase rfl]
    refine ⟨_, _, .settleLarge, rfl, rfl, ?_, hopen⟩
    apply moved_counted <;> rfl
  | done =>
    rw [act_work handler hphase rfl]
    exact ⟨_, _, .rest, rfl, rfl, moved_nothing rfl rfl rfl, hopen⟩

theorem moved_send (handler : Handler σ) (hopen : shift.IsOpen receiver) (path : String) (message : Bytes) :
    (shift.act handler receiver (.send path message)).pool = shift.pool ∧
      (Moved receiver shift (shift.act handler receiver (.send path message)) [] ∨
        Moved receiver shift (shift.act handler receiver (.send path message)) [.arrived message]) ∧
      (shift.act handler receiver (.send path message)).IsOpen receiver := by
  rw [act]
  split
  · exact ⟨rfl, .inl (moved_nothing rfl rfl rfl), hopen⟩
  · rename_i later hdeliver
    obtain ⟨id, target, -, htarget, -, -, -, rfl⟩ := Queue.Sender.of_deliver hdeliver
    obtain ⟨endpoint, hendpoint, hwoken⟩ := hopen
    by_cases hid : receiver.socket = id
    · subst hid
      refine ⟨rfl, .inr (moved_arrived ?_ rfl rfl), _, Table.get?_insert_self _ _ _, ?_⟩
      · simp [Host.queued, Host.setEndpoint, htarget]
      · rw [hendpoint, Option.some.injEq] at htarget
        rw [← htarget]
        exact hwoken
    · have hother : (shift.host.setEndpoint id { target with queue := target.queue ++ [message] }).endpoints.get?
          receiver.socket = shift.host.endpoints.get? receiver.socket :=
        Table.get?_insert_of_ne _ _ hid
      refine ⟨rfl, .inl (moved_nothing ?_ rfl rfl), endpoint, hother.trans hendpoint, hwoken⟩
      rw [Host.queued, hother, Host.queued]

theorem moved_stop (handler : Handler σ) (hopen : shift.IsOpen receiver) :
    (shift.act handler receiver .stop).pool = { shift.pool with running := false } ∧
      Moved receiver shift (shift.act handler receiver .stop) [] ∧
      (shift.act handler receiver .stop).IsOpen receiver := by
  obtain ⟨endpoint, hendpoint, hwoken⟩ := hopen
  rw [act]
  split
  · exact ⟨rfl, moved_nothing rfl rfl rfl, endpoint, hendpoint, fun _ => rfl⟩
  · rename_i hflag
    have hflag : shift.pool.running = false := Bool.eq_false_iff.2 hflag
    have hwake : receiver.wake shift.host
        = shift.host.setEndpoint receiver.socket { endpoint with isWoken := true } := by
      rw [Queue.Receiver.wake, hendpoint]
    rw [hwake]
    refine ⟨by rw [← hflag], moved_nothing ?_ rfl rfl, _, Table.get?_insert_self _ _ _, fun _ => hflag⟩
    simp [Host.queued, Host.setEndpoint, hendpoint]

theorem taken_fault (error? : Option IoError) :
    Pool.taken (match error? with
      | none => .ok none
      | some error => .error (.io error)) = .idle := by
  cases error? <;> rfl

end Shift

end Courier.Reception
