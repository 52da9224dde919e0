import Courier.Proofs.Reception.Delivery
import Courier.Proofs.Reception.Shift

/-! # What becomes of messages

Everything that a worker does is a row of `Course`s, one for each message that it took off the queue, and
the part of one that it is at (`Underway`). `Kept` is the invariant of a shift, `Kept.act` is what any
event does to it, and `every_message_is_accounted_for` says it of all runs of a server that was started.
-/

namespace Courier.Reception

/-- Whether a worker has counted a message as received and not yet what became of it. -/
def Phase.isCounted : Phase → Bool
  | .handling _ | .judged _ | .oversizedCounted => true
  | _ => false

namespace Shift

variable {σ : Type} {receiver : Queue.Receiver} {running : Bool} {phase next : Phase} {story deeds : List Deed}

inductive Course (capacity : Nat) : List Deed → Prop
  | handled {message : Bytes} (verdict : Verdict) (hfits : message.length ≤ capacity) :
      Course capacity [.took message, .counted .received, .handed message verdict, .counted verdict.counter]
  | oversized {message : Bytes} (hlarge : capacity < message.length) :
      Course capacity [.took message, .counted .received, .counted .failed]

/-- What a worker at some phase has done about the message that it is at. -/
inductive Underway (receiver : Queue.Receiver) (running : Bool) : Phase → List Deed → Prop
  | idle : Underway receiver running .idle []
  | receiving : Underway receiver running .receiving []
  | holding {message : Bytes} (hfits : message.length ≤ receiver.capacity) :
      Underway receiver running (.holding message) [.took message]
  /-- An empty message that nobody has sent. -/
  | woken (hrunning : running = false) : Underway receiver running (.holding []) []
  | handling {message : Bytes} (hfits : message.length ≤ receiver.capacity) :
      Underway receiver running (.handling message) [.took message, .counted .received]
  | judged {message : Bytes} {verdict : Verdict} (hfits : message.length ≤ receiver.capacity) :
      Underway receiver running (.judged verdict)
        [.took message, .counted .received, .handed message verdict]
  | oversized {message : Bytes} (hlarge : receiver.capacity < message.length) :
      Underway receiver running .oversized [.took message]
  | oversizedCounted {message : Bytes} (hlarge : receiver.capacity < message.length) :
      Underway receiver running .oversizedCounted [.took message, .counted .received]
  /-- The worker has found the flag gone right after it took the message. -/
  | dismissed {message : Bytes} (hfits : message.length ≤ receiver.capacity) (hrunning : running = false) :
      Underway receiver running .done [.took message]
  | done (hended : running = false ∨ receiver.hasBuffer = false) : Underway receiver running .done []

def Account (receiver : Queue.Receiver) (running : Bool) (phase : Phase) (story : List Deed) : Prop :=
  ∃ (courses : List (List Deed)) (rest : List Deed), story = courses.flatten ++ rest ∧
    (∀ course ∈ courses, Course receiver.capacity course) ∧ Underway receiver running phase rest

namespace Account

/-- A step goes on with the course of the message that the worker is at. -/
theorem stride (h : Account receiver running phase story)
    (hstride : Stride receiver running phase next deeds) :
    Account receiver running next (story ++ deeds) := by
  obtain ⟨courses, rest, rfl, hcourses, hrest⟩ := h
  have goes {rest' : List Deed} (hrest' : rest ++ deeds = rest')
      (hnext : Underway receiver running next rest') :
      Account receiver running next (courses.flatten ++ rest ++ deeds) :=
    ⟨courses, rest', by rw [List.append_assoc, hrest'], hcourses, hnext⟩
  have ends (hcourse : Course receiver.capacity (rest ++ deeds))
      (hnext : Underway receiver running next []) :
      Account receiver running next (courses.flatten ++ rest ++ deeds) := by
    refine ⟨courses ++ [rest ++ deeds], [], by simp, fun course hmem => ?_, hnext⟩
    rcases List.mem_append.1 hmem with hmem | hmem
    · exact hcourses course hmem
    · rw [List.mem_singleton.1 hmem]
      exact hcourse
  cases hstride with
  | begin hrunning =>
    cases hrest
    exact goes rfl .receiving
  | leave hrunning =>
    cases hrest
    exact goes rfl (.done (.inl hrunning))
  | take hfits =>
    cases hrest
    exact goes rfl (.holding hfits)
  | takeLarge hlarge =>
    cases hrest
    exact goes rfl (.oversized hlarge)
  | wait =>
    cases hrest
    exact goes rfl .idle
  | woken hrunning =>
    cases hrest
    exact goes rfl (.woken hrunning)
  | receive hrunning =>
    cases hrest with
    | holding hfits => exact goes rfl (.handling hfits)
    | woken hstopped =>
      rw [hrunning] at hstopped
      cases hstopped
  | dismiss hrunning =>
    cases hrest with
    | holding hfits => exact goes rfl (.dismissed hfits hrunning)
    | woken => exact goes rfl (.done (.inl hrunning))
  | handle =>
    cases hrest with
    | handling hfits => exact goes rfl (.judged hfits)
  | settle =>
    cases hrest with
    | judged hfits => exact ends (.handled _ hfits) .idle
  | receiveLarge =>
    cases hrest with
    | oversized hlarge => exact goes rfl (.oversizedCounted hlarge)
  | settleLarge =>
    cases hrest with
    | oversizedCounted hlarge => exact ends (.oversized hlarge) .idle
  | rest => exact goes (List.append_nil _) hrest

/-- A worker goes on as it was when the flag is taken away. -/
theorem halt (h : Account receiver running phase story) : Account receiver false phase story := by
  obtain ⟨courses, rest, hstory, hcourses, hrest⟩ := h
  refine ⟨courses, rest, hstory, hcourses, ?_⟩
  cases hrest with
  | idle => exact .idle
  | receiving => exact .receiving
  | holding hfits => exact .holding hfits
  | woken => exact .woken rfl
  | handling hfits => exact .handling hfits
  | judged hfits => exact .judged hfits
  | oversized hlarge => exact .oversized hlarge
  | oversizedCounted hlarge => exact .oversizedCounted hlarge
  | dismissed hfits => exact .dismissed hfits rfl
  | done => exact .done (.inl rfl)

/-- Only a stop, or the want of a buffer, ends a worker. -/
theorem ended (h : Account receiver running .done story) :
    running = false ∨ receiver.hasBuffer = false := by
  obtain ⟨courses, rest, -, -, hrest⟩ := h
  cases hrest with
  | dismissed hfits hrunning => exact .inl hrunning
  | done hended => exact hended

end Account

/-- A step of a worker keeps the balance between what is received and what is settled or in hand. -/
theorem Stride.balance (h : Stride receiver running phase next deeds) (tally : Tally) :
    (tally.plus (deeds.filterMap Deed.counter?)).received + tally.settled + phase.isCounted.toNat
      = tally.received + (tally.plus (deeds.filterMap Deed.counter?)).settled + next.isCounted.toNat := by
  cases h with
  | @settle verdict =>
    cases verdict <;>
      simp [Deed.counter?, Verdict.counter, Tally.plus, Tally.settled, Phase.isCounted] <;> omega
  | _ =>
    simp [List.filterMap_cons, Deed.counter?, Tally.plus, Tally.settled, Phase.isCounted] <;> omega

theorem countP_set_isCounted {phases : List Phase} {worker : Nat} (h : phases[worker]? = some phase)
    (next : Phase) : (phases.set worker next).countP Phase.isCounted + phase.isCounted.toNat
      = phases.countP Phase.isCounted + next.isCounted.toNat := by
  obtain ⟨hlt, hget⟩ := List.getElem?_eq_some_iff.1 h
  have hone : phase.isCounted = true → 0 < phases.countP Phase.isCounted := fun hcounted =>
    List.countP_pos_iff.2 ⟨phase, List.mem_of_getElem? h, hcounted⟩
  rw [List.countP_set hlt, hget]
  cases hbefore : phase.isCounted with
  | false => cases next.isCounted <;> rfl
  | true =>
    have hpos := hone hbefore
    cases next.isCounted <;> simp <;> omega

def deedsOf (trace : List (Event × List Deed)) : List Deed := trace.flatMap (·.2)

def storyOf (worker : Nat) (trace : List (Event × List Deed)) : List Deed :=
  deedsOf (trace.filter (·.1.worker? = some worker))

theorem deedsOf_append (trace : List (Event × List Deed)) (event : Event) (deeds : List Deed) :
    deedsOf (trace ++ [(event, deeds)]) = deedsOf trace ++ deeds := by
  simp [deedsOf]

theorem storyOf_append_self {worker : Nat} {event : Event} (h : event.worker? = some worker)
    (trace : List (Event × List Deed)) (deeds : List Deed) :
    storyOf worker (trace ++ [(event, deeds)]) = storyOf worker trace ++ deeds := by
  simp [storyOf, deedsOf, h]

theorem storyOf_append_other {worker : Nat} {event : Event} (h : event.worker? ≠ some worker)
    (trace : List (Event × List Deed)) (deeds : List Deed) :
    storyOf worker (trace ++ [(event, deeds)]) = storyOf worker trace := by
  simp [storyOf, h]

structure Kept (receiver : Queue.Receiver) (start : Shift σ) (trace : List (Event × List Deed))
    (shift : Shift σ) : Prop where
  isOpen : shift.IsOpen receiver
  accounts : ∀ worker phase, shift.pool.phases[worker]? = some phase →
    Account receiver shift.pool.running phase (storyOf worker trace)
  balance : shift.pool.tally.received + start.pool.tally.settled
    = start.pool.tally.received + shift.pool.tally.settled + shift.pool.phases.countP Phase.isCounted
  calls : shift.calls = start.calls ++ (deedsOf trace).filterMap Deed.handed?
  tally : shift.pool.tally = start.pool.tally.plus ((deedsOf trace).filterMap Deed.counter?)
  queued : start.host.queued receiver.socket ++ (deedsOf trace).filterMap Deed.arrived?
    = (deedsOf trace).filterMap Deed.took? ++ shift.host.queued receiver.socket
  /-- Nothing is done but by a worker. -/
  doers : ∀ entry ∈ trace, entry.2 = [] ∨ (∃ message, entry.2 = [.arrived message]) ∨
    ∃ worker, entry.1 = .work worker ∧ worker < shift.pool.phases.length

namespace Kept

variable {start shift : Shift σ} {trace : List (Event × List Deed)} {handler : Handler σ}

theorem of_idle (hopen : shift.IsOpen receiver) (hcalls : shift.calls = [])
    (hidle : ∀ phase ∈ shift.pool.phases, Underway receiver shift.pool.running phase [] ∧
      phase.isCounted = false) : Kept receiver shift [] shift where
  isOpen := hopen
  accounts worker phase hphase :=
    ⟨[], [], rfl, fun _ h => absurd h List.not_mem_nil, (hidle phase (List.mem_of_getElem? hphase)).1⟩
  balance := by
    have hnone : shift.pool.phases.countP Phase.isCounted = 0 :=
      List.countP_eq_zero.2 fun phase hphase => by simp [(hidle phase hphase).2]
    rw [hnone, Nat.add_zero]
  calls := by simp [hcalls, deedsOf]
  tally := rfl
  queued := by simp [deedsOf]
  doers := fun _ h => absurd h List.not_mem_nil

theorem moved {next : Shift σ} {event : Event} {deeds : List Deed} (h : Kept receiver start trace shift)
    (hmoved : Moved receiver shift next deeds) (hopen : next.IsOpen receiver)
    (haccounts : ∀ worker phase, next.pool.phases[worker]? = some phase →
      Account receiver next.pool.running phase (storyOf worker (trace ++ [(event, deeds)])))
    (hbalance : next.pool.tally.received + shift.pool.tally.settled
        + shift.pool.phases.countP Phase.isCounted
      = shift.pool.tally.received + next.pool.tally.settled + next.pool.phases.countP Phase.isCounted)
    (hlength : next.pool.phases.length = shift.pool.phases.length)
    (hdoer : deeds = [] ∨ (∃ message, deeds = [.arrived message]) ∨
      ∃ worker, event = .work worker ∧ worker < shift.pool.phases.length) :
    Kept receiver start (trace ++ [(event, observe receiver shift next)]) next := by
  rw [hmoved.observed]
  refine ⟨hopen, haccounts, ?_, ?_, ?_, ?_, ?_⟩
  · have hbefore := h.balance
    omega
  · rw [deedsOf_append, List.filterMap_append, hmoved.calls, h.calls, List.append_assoc]
  · rw [deedsOf_append, List.filterMap_append, Tally.plus_append, hmoved.tally, h.tally]
  · rw [deedsOf_append, List.filterMap_append, List.filterMap_append, ← List.append_assoc, h.queued,
      List.append_assoc, hmoved.queued, List.append_assoc]
  · intro entry hentry
    rw [hlength]
    rcases List.mem_append.1 hentry with hentry | hentry
    · exact h.doers entry hentry
    · obtain rfl := List.mem_singleton.1 hentry
      exact hdoer

theorem send (h : Kept receiver start trace shift) (path : String) (message : Bytes) :
    Kept receiver start (trace ++ [(.send path message,
        observe receiver shift (shift.act handler receiver (.send path message)))])
      (shift.act handler receiver (.send path message)) := by
  obtain ⟨hpool, hmoved, hopen⟩ := moved_send handler h.isOpen path message
  have haccounts (deeds : List Deed) : ∀ worker phase,
      (shift.act handler receiver (.send path message)).pool.phases[worker]? = some phase →
      Account receiver (shift.act handler receiver (.send path message)).pool.running phase
        (storyOf worker (trace ++ [(.send path message, deeds)])) := by
    intro worker phase hphase
    rw [storyOf_append_other (by simp [Event.worker?]), hpool]
    rw [hpool] at hphase
    exact h.accounts worker phase hphase
  rcases hmoved with hmoved | hmoved
  · refine h.moved hmoved hopen (haccounts _) ?_ (by rw [hpool]) (.inl rfl)
    rw [hpool]
  · refine h.moved hmoved hopen (haccounts _) ?_ (by rw [hpool]) (.inr (.inl ⟨message, rfl⟩))
    rw [hpool]

theorem work (h : Kept receiver start trace shift) (worker : Nat) :
    Kept receiver start (trace ++ [(.work worker,
        observe receiver shift (shift.act handler receiver (.work worker)))])
      (shift.act handler receiver (.work worker)) := by
  cases hphase : shift.pool.phases[worker]? with
  | none =>
    have hact : shift.act handler receiver (.work worker) = shift := by
      simp [act, Pool.step, hphase]
    rw [hact]
    refine h.moved (moved_nothing rfl rfl rfl) h.isOpen (fun other phase hother => ?_) rfl rfl (.inl rfl)
    have hne : other ≠ worker := by
      rintro rfl
      rw [hphase] at hother
      cases hother
    rw [storyOf_append_other (by simpa [Event.worker?] using Ne.symm hne)]
    exact h.accounts other phase hother
  | some phase =>
    obtain ⟨next, deeds, hstride, hphases, hrunning, hmoved, hopen⟩ :=
      stride_of_work handler hphase h.isOpen
    obtain ⟨hlt, hget⟩ := List.getElem?_eq_some_iff.1 hphase
    refine h.moved hmoved hopen (fun other phase' hother => ?_) ?_ ?_ (.inr (.inr ⟨worker, rfl, hlt⟩))
    · rw [hrunning]
      rw [hphases, List.getElem?_set] at hother
      by_cases hne : worker = other
      · subst hne
        obtain rfl : next = phase' := by simpa [hlt] using hother
        rw [storyOf_append_self rfl]
        exact (h.accounts worker phase hphase).stride hstride
      · rw [if_neg hne] at hother
        rw [storyOf_append_other (by simpa [Event.worker?] using hne)]
        exact h.accounts other phase' hother
    · have hbalance := hstride.balance shift.pool.tally
      have hcount := countP_set_isCounted hphase next
      rw [hphases, hmoved.tally]
      omega
    · rw [hphases, List.length_set]

/-- A receive call that ends without a message leads back to the start of the loop. -/
theorem fault (h : Kept receiver start trace shift) (worker : Nat) (error? : Option IoError) :
    Kept receiver start (trace ++ [(.fault worker error?,
        observe receiver shift (shift.act handler receiver (.fault worker error?)))])
      (shift.act handler receiver (.fault worker error?)) := by
  by_cases hphase : shift.pool.phases[worker]? = some .receiving
  · have hact : shift.act handler receiver (.fault worker error?)
        = { shift with pool := { shift.pool with phases := shift.pool.phases.set worker .idle } } := by
      simp only [Shift.act, if_pos hphase, taken_fault]
    obtain ⟨hlt, -⟩ := List.getElem?_eq_some_iff.1 hphase
    rw [hact]
    refine h.moved (moved_nothing rfl rfl rfl) h.isOpen (fun other phase hother => ?_) ?_
      (List.length_set ..) (.inl rfl)
    · rw [storyOf_append_other (by simp [Event.worker?])]
      rw [List.getElem?_set] at hother
      by_cases hne : worker = other
      · subst hne
        obtain rfl : Phase.idle = phase := by simpa [hlt] using hother
        have hwait := (h.accounts worker .receiving hphase).stride .wait
        rwa [List.append_nil] at hwait
      · rw [if_neg hne] at hother
        exact h.accounts other phase hother
    · have hcount := countP_set_isCounted hphase .idle
      exact congrArg (shift.pool.tally.received + shift.pool.tally.settled + ·) hcount.symm
  · have hact : shift.act handler receiver (.fault worker error?) = shift := by
      simp only [Shift.act, if_neg hphase]
    rw [hact]
    refine h.moved (moved_nothing rfl rfl rfl) h.isOpen (fun other phase hother => ?_) rfl rfl (.inl rfl)
    rw [storyOf_append_other (by simp [Event.worker?])]
    exact h.accounts other phase hother

theorem stop (h : Kept receiver start trace shift) :
    Kept receiver start (trace ++ [(.stop, observe receiver shift (shift.act handler receiver .stop))])
      (shift.act handler receiver .stop) := by
  obtain ⟨hpool, hmoved, hopen⟩ := moved_stop handler h.isOpen
  refine h.moved hmoved hopen (fun worker phase hphase => ?_) ?_ (by rw [hpool]) (.inl rfl)
  · rw [storyOf_append_other (by simp [Event.worker?]), hpool]
    rw [hpool] at hphase
    exact (h.accounts worker phase hphase).halt
  · rw [hpool]

theorem act (h : Kept receiver start trace shift) (event : Event) :
    Kept receiver start (trace ++ [(event, observe receiver shift (shift.act handler receiver event))])
      (shift.act handler receiver event) := by
  cases event with
  | send path message => exact h.send path message
  | work worker => exact h.work worker
  | fault worker error? => exact h.fault worker error?
  | stop => exact h.stop

theorem run (h : Kept receiver start trace shift) (events : List Event) :
    Kept receiver start (trace ++ (Shift.run handler receiver events shift).1)
      (Shift.run handler receiver events shift).2 := by
  induction events generalizing trace shift with
  | nil => simpa [Shift.run] using h
  | cons event events ih =>
    have hevent : Kept receiver start (trace ++ [(event, observe receiver shift (shift.act handler receiver event))])
        (shift.act handler receiver event) := h.act event
    have hnext := ih hevent
    rw [List.append_assoc] at hnext
    exact hnext

end Kept

theorem kept_of_start {host later : Host} {server started : Server}
    (hstart : server.start host = (.ok (), later, started)) (hqueue : started.queue = some receiver)
    (state : σ) :
    receiver.capacity = server.config.capacity ∧ started.pool.tally = server.pool.tally ∧
      later.queued receiver.socket = [] ∧
      Kept receiver { host := later, pool := started.pool, state } []
        { host := later, pool := started.pool, state } := by
  obtain ⟨bound, rfl, hcapacity, -, -, -, hserves⟩ := Server.of_start hstart
  obtain rfl : bound = receiver := Option.some.inj hqueue
  refine ⟨hcapacity, rfl, hserves.queued_eq, Kept.of_idle ?_ rfl fun phase hphase => ?_⟩
  · obtain ⟨access, hendpoint⟩ := hserves
    exact ⟨_, hendpoint, nofun⟩
  · rw [List.eq_of_mem_replicate hphase]
    cases hbuffer : bound.hasBuffer with
    | true => exact ⟨.idle, rfl⟩
    | false => exact ⟨.done (.inr hbuffer), rfl⟩

/-- Whatever a handler answers, in whatever order messages come, workers take their steps and a request to
stop takes effect, the messages received are those settled and those in the hands of workers. Each message
that is taken off the queue takes its course with one worker: it is handed over once if it fits, counted
once as received and once for what became of it, unless the worker finds the flag gone right after taking
it. Nothing else is handed over or counted, no message is lost in between, and no worker ends while the
server runs. -/
theorem every_message_is_accounted_for {host later : Host} {server started : Server}
    (hstart : server.start host = (.ok (), later, started)) (hqueue : started.queue = some receiver)
    (hbalanced : server.pool.tally.received = server.pool.tally.settled) (handler : Handler σ) (state : σ)
    (events : List Event) :
    let run := Shift.run handler receiver events { host := later, pool := started.pool, state }
    let pool := run.2.pool
    pool.tally.received = pool.tally.settled + pool.phases.countP Phase.isCounted ∧
      ((∀ phase ∈ pool.phases, phase.isCounted = false) → pool.tally.received = pool.tally.settled) ∧
      receiver.capacity = server.config.capacity ∧
      (∀ worker phase, pool.phases[worker]? = some phase →
        Account receiver pool.running phase (storyOf worker run.1)) ∧
      (pool.running = true → receiver.hasBuffer = true → Phase.done ∉ pool.phases) ∧
      (∀ entry ∈ run.1, entry.2 = [] ∨ (∃ message, entry.2 = [.arrived message]) ∨
        ∃ worker, entry.1 = .work worker ∧ worker < pool.phases.length) ∧
      run.2.calls = (deedsOf run.1).filterMap Deed.handed? ∧
      pool.tally = server.pool.tally.plus ((deedsOf run.1).filterMap Deed.counter?) ∧
      (deedsOf run.1).filterMap Deed.arrived?
        = (deedsOf run.1).filterMap Deed.took? ++ run.2.host.queued receiver.socket := by
  intro run pool
  obtain ⟨hsize, htally, hempty, hfresh⟩ := kept_of_start hstart hqueue state
  have hkept : Kept receiver { host := later, pool := started.pool, state } run.1 run.2 :=
    hfresh.run events
  have hbalance : pool.tally.received = pool.tally.settled + pool.phases.countP Phase.isCounted := by
    have hkeeps : pool.tally.received + server.pool.tally.settled
        = server.pool.tally.received + pool.tally.settled + pool.phases.countP Phase.isCounted :=
      htally ▸ hkept.balance
    omega
  refine ⟨hbalance, fun hsettled => ?_, hsize, hkept.accounts, fun hrunning hbuffer hdone => ?_,
    hkept.doers, hkept.calls, htally ▸ hkept.tally, ?_⟩
  · have hnone : pool.phases.countP Phase.isCounted = 0 :=
      List.countP_eq_zero.2 fun phase hphase => by simp [hsettled phase hphase]
    rw [hbalance, hnone, Nat.add_zero]
  · obtain ⟨worker, hworker⟩ := List.mem_iff_getElem?.1 hdone
    rcases (hkept.accounts worker .done hworker).ended with hstopped | hunbuffered
    · rw [hrunning] at hstopped
      cases hstopped
    · rw [hbuffer] at hunbuffered
      cases hunbuffered
  · have hqueued := hkept.queued
    rw [hempty] at hqueued
    exact hqueued

/-- Two workers meet a message that is too large, one that makes the handler panic, and one that is in the
hand of a worker when the server is stopped. -/
theorem stopped_worker_dismisses_its_message :
    let server : Server := { address := "/b", access := .standard, config := { workers := 2, capacity := 2 } }
    let receiver : Queue.Receiver := ⟨"/b", "/b", 2, 0⟩
    let handler : Handler Unit := fun message _ => (if message = [0] then .panicked "" else .accepted, ())
    let events : List Event := [.send "/b" [1, 2, 3], .send "/b" [0], .send "/b" [7], .work 0, .work 1,
      .fault 1 none, .work 0, .work 1, .work 0, .work 1, .work 1, .work 1, .work 0, .work 1, .work 1,
      .work 1, .stop, .work 1, .stop, .work 0]
    let started : Server := { server with
      queue := some receiver, pool := { running := true, phases := [.idle, .idle] } }
    let later : Host := { Host.isolated.setEndpoint 0 { access := .standard } with
      store := Store.initial.setNode ["b"] (.socket 0), nextEndpoint := 1 }
    let run := Shift.run handler receiver events { host := later, pool := started.pool, state := () }
    server.start .isolated = (.ok (), later, started) ∧ started.queue = some receiver ∧
      server.pool.tally.received = server.pool.tally.settled ∧
      run.2.pool.phases = [.done, .done] ∧
      run.2.pool.tally = { received := 2, accepted := 0, rejected := 0, failed := 2 } ∧
      Account receiver run.2.pool.running .done (storyOf 1 run.1) := by
  intro server receiver handler events started later run
  have hstart : server.start .isolated = (.ok (), later, started) := by cbv
  have hphases : run.2.pool.phases = [.done, .done] := by
    simp only [run, started, later]
    cbv
  have htally : run.2.pool.tally = { received := 2, accepted := 0, rejected := 0, failed := 2 } := by
    simp only [run, started, later]
    cbv
  obtain ⟨-, -, -, haccounts, -⟩ :=
    every_message_is_accounted_for hstart rfl rfl handler () events
  -- To compare the run by its name with the run written out would mean to carry it out.
  simp only [run] at hphases htally ⊢
  exact ⟨hstart, rfl, rfl, hphases, htally, haccounts 1 .done (by rw [hphases]; rfl)⟩

end Shift

end Courier.Reception
