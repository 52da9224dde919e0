import Courier.Proofs.Queue.Ownership

/-! # What passes through bound queues

Receivers are bound one after another, and then messages are sent and received and receivers woken in any
order. One equation says what becomes of the messages of a queue: those that waited, followed by those that
arrive, are those that are taken, followed by those that wait now. A step keeps it, so a run does, and all
that is left to ask of a receive is how it answers one message.
-/

namespace Courier

def Store.socket? (store : Store) (path : String) : Option Nat :=
  match store.node true path with
  | .ok (.socket id) => some id
  | _ => none

theorem Store.socket?_of_node {store : Store} {path : String} {id : Nat}
    (h : store.node true path = .ok (.socket id)) : store.socket? path = some id := by
  simp [socket?, h]

theorem Host.Serves.setEndpoint_of_ne {host : Host} {socket other : Nat} {queued : List Bytes}
    (h : host.Serves socket queued) (hne : socket ≠ other) (endpoint : Endpoint) :
    (host.setEndpoint other endpoint).Serves socket queued := by
  obtain ⟨access, hendpoint⟩ := h
  exact ⟨access, (Table.get?_insert_of_ne _ _ hne).trans hendpoint⟩

namespace Queue

/-- How a receiver answers a message: with all of it, or with how far it is known to be too large. -/
def Receiver.verdict (receiver : Receiver) (message : Bytes) : Except Transport.Error (Option Bytes) :=
  if message.length ≤ receiver.capacity then .ok (some message)
  else .error (.messageTooLarge (receiver.capacity + 1) receiver.capacity)

def Receiver.nextAnswer (receiver : Receiver) : List Bytes → Except Transport.Error (Option Bytes)
  | [] => .ok none
  | message :: _ => receiver.verdict message

inductive Action (receivers : List Receiver)
  | send (sender : Sender) (message : Bytes)
  | receive (receiver : Receiver) (hmem : receiver ∈ receivers)
  | wake (receiver : Receiver) (hmem : receiver ∈ receivers)

inductive Event
  | sent (sender : Sender) (message : Bytes) (outcome : Except Transport.Error Unit)
  | received (receiver : Receiver) (answer : Except Transport.Error (Option Bytes))
  /-- No buffer could be made for a receive. -/
  | unbuffered (receiver : Receiver)
  | woken (receiver : Receiver)

namespace Event

/-- The message that a send added to the queue of a socket. -/
def arrival (store : Store) (socket : Nat) : Event → List Bytes
  | sent sender message (.ok ()) => if store.socket? sender.path = some socket then [message] else []
  | _ => []

/-- The answer of a receiver, if it did not give up waiting. -/
def answer (receiver : Receiver) : Event → List (Except Transport.Error (Option Bytes))
  | received _ (.ok none) => []
  | received other answer => if other = receiver then [answer] else []
  | _ => []

/-- A message arrives at one socket only. -/
theorem eq_of_arrival {store : Store} {event : Event} {socket other : Nat}
    (h : event.arrival store socket ≠ []) (hother : event.arrival store other ≠ []) : other = socket := by
  rcases event with ⟨sender, message, error | _⟩ | _ | _ | _
  · exact absurd rfl h
  · by_cases hsocket : store.socket? sender.path = some socket
    · by_cases hsame : store.socket? sender.path = some other
      · exact Option.some.inj (hsame.symm.trans hsocket)
      · exact absurd (if_neg hsame) hother
    · exact absurd (if_neg hsocket) h
  · exact absurd rfl h
  · exact absurd rfl h
  · exact absurd rfl h

end Event

def arrivals (store : Store) (socket : Nat) (events : List Event) : List Bytes :=
  events.flatMap (Event.arrival store socket)

def answers (receiver : Receiver) (events : List Event) : List (Except Transport.Error (Option Bytes)) :=
  events.flatMap (Event.answer receiver)

namespace Action

variable {receivers : List Receiver}

def perform (host : Host) : Action receivers → Event × Host
  | send sender message =>
    let (outcome, later) := sender.send host message
    (.sent sender message outcome, later)
  | receive receiver _ =>
    if receiver.hasBuffer then
      let (answer, later) := receiver.receive host receiver.bufferSize
      (.received receiver answer, later)
    else (.unbuffered receiver, host)
  | wake receiver _ => (.woken receiver, receiver.wake host)

def performAll (host : Host) : List (Action receivers) → List Event × Host
  | [] => ([], host)
  | action :: actions =>
    let (event, later) := action.perform host
    let (events, last) := performAll later actions
    (event :: events, last)

end Action

section

variable {host later : Host} {receiver : Receiver} {receivers : List Receiver} {queued : List Bytes}
  {events : List Event}

/-- What happened while a host turned into another, told for the queue of one receiver: the messages that
waited and those that arrived are those that it answered and those that wait now. -/
structure Passes (receiver : Receiver) (host : Host) (queued : List Bytes) (events : List Event)
    (later : Host) (taken waiting : List Bytes) : Prop where
  messages : queued ++ arrivals host.store receiver.socket events = taken ++ waiting
  answers : answers receiver events = taken.map receiver.verdict
  serves : later.Serves receiver.socket waiting
  places : host.SamePlaces later

namespace Passes

theorem nil (hserves : host.Serves receiver.socket queued) : Passes receiver host queued [] host [] queued :=
  ⟨List.append_nil queued, rfl, hserves, .refl host⟩

/-- What happens to other queues, and what fails, passes this one by. -/
theorem unseen {event : Event} (harrival : event.arrival host.store receiver.socket = [])
    (hanswer : event.answer receiver = []) (hserves : later.Serves receiver.socket queued)
    (hplaces : host.SamePlaces later) : Passes receiver host queued [event] later [] queued :=
  ⟨by simp [arrivals, harrival], by simp [Queue.answers, hanswer], hserves, hplaces⟩

theorem append {middle : Host} {waiting taken taken' waiting' : List Bytes} {events' : List Event}
    (h : Passes receiver host queued events middle taken waiting)
    (h' : Passes receiver middle waiting events' later taken' waiting') :
    Passes receiver host queued (events ++ events') later (taken ++ taken') waiting' where
  messages := by
    have hlater := h'.messages
    rw [h.places.store] at hlater
    calc queued ++ arrivals host.store receiver.socket (events ++ events')
        = queued ++ arrivals host.store receiver.socket events
            ++ arrivals host.store receiver.socket events' := by
          simp [arrivals]
      _ = taken ++ (waiting ++ arrivals host.store receiver.socket events') := by
          rw [h.messages, List.append_assoc]
      _ = taken ++ taken' ++ waiting' := by
          rw [hlater, List.append_assoc]
  answers := by
    have hboth : Queue.answers receiver (events ++ events')
        = Queue.answers receiver events ++ Queue.answers receiver events' := List.flatMap_append
    rw [hboth, h.answers, h'.answers, List.map_append]
  serves := h'.serves
  places := ⟨h'.places.store.trans h.places.store, h'.places.queueDirectory.trans h.places.queueDirectory⟩

end Passes

theorem passes_send (hserves : host.Serves receiver.socket queued) (sender : Sender) (message : Bytes) :
    ∃ waiting, Passes receiver host queued [.sent sender message (sender.send host message).1]
      (sender.send host message).2 [] waiting := by
  rw [Sender.send]
  cases hdeliver : Sender.deliver host sender.path message with
  | error error => exact ⟨queued, .unseen rfl rfl hserves (.refl host)⟩
  | ok later =>
    obtain ⟨id, endpoint, hnode, hendpoint, -, -, -, rfl⟩ := Sender.of_deliver hdeliver
    have hsocket := Store.socket?_of_node hnode
    by_cases hid : receiver.socket = id
    · subst hid
      obtain ⟨access, hserved⟩ := hserves
      obtain rfl := Option.some.inj (hendpoint.symm.trans hserved)
      refine ⟨queued ++ [message], ?_, rfl, host.serves_setEndpoint _ access _, rfl, rfl⟩
      simp [arrivals, Event.arrival, hsocket]
    · refine ⟨queued, .unseen ?_ rfl (hserves.setEndpoint_of_ne hid _) ⟨rfl, rfl⟩⟩
      simp [Event.arrival, hsocket, Ne.symm hid]

theorem Receiver.receive_changes (host : Host) (receiver : Receiver) (size : Nat) :
    (receiver.receive host size).2 = host ∨
      ∃ endpoint, (receiver.receive host size).2 = host.setEndpoint receiver.socket endpoint := by
  rw [receive]
  split
  · exact .inl rfl
  · split
    · exact .inl rfl
    · dsimp only
      split
      · exact .inr ⟨_, rfl⟩
      · exact .inr ⟨_, rfl⟩

theorem Receiver.wake_changes (host : Host) (receiver : Receiver) :
    receiver.wake host = host ∨
      ∃ endpoint, receiver.wake host = host.setEndpoint receiver.socket endpoint := by
  rw [wake]
  split
  · exact .inl rfl
  · exact .inr ⟨_, rfl⟩

theorem passes_elsewhere {other : Receiver} {event : Event} (hserves : host.Serves receiver.socket queued)
    (hne : receiver.socket ≠ other.socket) (harrival : event.arrival host.store receiver.socket = [])
    (hanswer : event.answer receiver = [])
    (hlater : later = host ∨ ∃ endpoint, later = host.setEndpoint other.socket endpoint) :
    Passes receiver host queued [event] later [] queued := by
  rcases hlater with rfl | ⟨endpoint, rfl⟩
  · exact .unseen harrival hanswer hserves (.refl later)
  · exact .unseen harrival hanswer (hserves.setEndpoint_of_ne hne endpoint) ⟨rfl, rfl⟩

theorem Receiver.receive_answers (hserves : host.Serves receiver.socket queued) :
    (receiver.receive host receiver.bufferSize).1 = receiver.nextAnswer queued := by
  cases queued with
  | nil => rw [receive_of_empty hserves, nextAnswer]
  | cons message queued =>
    obtain ⟨later, -, -, hreceive⟩ := receive_of_queued hserves
    rw [hreceive, nextAnswer, verdict]

theorem Event.answer_verdict (receiver : Receiver) (message : Bytes) :
    (Event.received receiver (receiver.verdict message)).answer receiver = [receiver.verdict message] := by
  rw [Receiver.verdict]
  split <;> exact if_pos rfl

/-- A receiver takes the first message, if there is one, and answers it. -/
theorem passes_receive (hserves : host.Serves receiver.socket queued) :
    ∃ taken waiting, Passes receiver host queued
      [.received receiver (receiver.receive host receiver.bufferSize).1]
      (receiver.receive host receiver.bufferSize).2 taken waiting := by
  cases queued with
  | nil =>
    rw [Receiver.receive_of_empty hserves]
    exact ⟨[], [], .unseen rfl rfl hserves (.refl host)⟩
  | cons message queued =>
    obtain ⟨later, hlater, hplaces, hreceive⟩ := Receiver.receive_of_queued hserves
    rw [hreceive]
    refine ⟨[message], queued, List.append_nil _, ?_, hlater, hplaces⟩
    rw [answers, List.flatMap_singleton, List.map_singleton]
    exact Event.answer_verdict receiver message

theorem Action.passes_perform (hmem : receiver ∈ receivers)
    (hdistinct : ∀ other ∈ receivers, other.socket = receiver.socket → other = receiver)
    (hserves : host.Serves receiver.socket queued)
    {action : Action receivers} (haction : action ≠ wake receiver hmem) :
    ∃ taken waiting, Passes receiver host queued [(action.perform host).1] (action.perform host).2
      taken waiting := by
  cases action with
  | send sender message => exact ⟨[], passes_send hserves sender message⟩
  | receive other hother =>
    rw [perform]
    split
    · by_cases hsame : other = receiver
      · subst hsame
        exact passes_receive hserves
      · have hanswer {answer : Except Transport.Error (Option Bytes)} :
            (Event.received other answer).answer receiver = [] := by
          rw [Event.answer.eq_def]
          split <;> simp_all
        exact ⟨[], queued, passes_elsewhere hserves (fun h => hsame (hdistinct other hother h.symm)) rfl
          hanswer (Receiver.receive_changes host other _)⟩
    · exact ⟨[], queued, .unseen rfl rfl hserves (.refl host)⟩
  | wake other hother =>
    have hne : receiver.socket ≠ other.socket := by
      intro hsocket
      obtain rfl := hdistinct other hother hsocket.symm
      exact haction rfl
    exact ⟨[], queued, passes_elsewhere hserves hne rfl rfl (Receiver.wake_changes host other)⟩

/-- A run, by induction on what is done: each step hands the next one the messages that wait. -/
theorem Action.passes_performAll (hmem : receiver ∈ receivers)
    (hdistinct : ∀ other ∈ receivers, other.socket = receiver.socket → other = receiver)
    (hserves : host.Serves receiver.socket queued)
    {actions : List (Action receivers)} (hactions : wake receiver hmem ∉ actions) :
    ∃ taken waiting, Passes receiver host queued (performAll host actions).1 (performAll host actions).2
      taken waiting := by
  induction actions generalizing host queued with
  | nil => exact ⟨[], queued, .nil hserves⟩
  | cons action actions ih =>
    obtain ⟨hfirst, hrest⟩ := not_or.1 (mt List.mem_cons.2 hactions)
    obtain ⟨taken, waiting, hstep⟩ := passes_perform hmem hdistinct hserves (Ne.symm hfirst)
    obtain ⟨taken', waiting', hrun⟩ := ih hstep.serves hrest
    exact ⟨taken ++ taken', waiting', hstep.append hrun⟩

end

namespace Holdings

/-- What binds alone make of a host without receivers, those that fail included. -/
inductive Bound (start : Host) : Holdings → Prop
  | start : Bound start ⟨start, []⟩
  | bind {host later : Host} {receivers : List Receiver} {name : String} {capacity : Nat} {access : Access}
      {receiver : Receiver} (hbound : Bound start ⟨host, receivers⟩)
      (hbind : Receiver.bind host name capacity access = (.ok receiver, later)) :
      Bound start ⟨later, receiver :: receivers⟩
  | refuse {host later : Host} {receivers : List Receiver} {name : String} {capacity : Nat} {access : Access}
      {error : Transport.Error} (hbound : Bound start ⟨host, receivers⟩)
      (hbind : Receiver.bind host name capacity access = (.error error, later)) :
      Bound start ⟨later, receivers⟩

variable {start : Host} {holdings : Holdings} {receiver : Receiver}

theorem Bound.reached (h : Bound start holdings) : Reached (fun _ => True) start holdings := by
  induction h with
  | start => exact .start
  | bind _ hbind ih => exact ih.step (.bind hbind)
  | refuse _ hbind ih => exact ih.step (.refuse hbind)

theorem Bound.kept (hsound : start.IsSound) (h : Bound start holdings) : Kept (fun _ => True) holdings :=
  Kept.of_reached hsound h.reached

theorem Bound.serves (hsound : start.IsSound) (h : Bound start holdings)
    (hmem : receiver ∈ holdings.receivers) : holdings.host.Serves receiver.socket [] := by
  induction h with
  | start => cases hmem
  | bind hbound hbind ih =>
    rcases List.mem_cons.1 hmem with rfl | hold
    · exact (takes_of_bind (hbound.kept hsound).sound.tree hbind).serves
    · exact (spares_bind (hbound.kept hsound).sound hbind).serves (ih hold) nofun
  | refuse hbound hbind ih => exact (spares_bind (hbound.kept hsound).sound hbind).serves (ih hmem) nofun

/-- Every name that stands for the path of a receiver leads to its socket, and no message is too large for
its queue that is not too large for all queues. -/
theorem send_of_bound (hsound : start.IsSound) (hbound : Bound start holdings)
    (hmem : receiver ∈ holdings.receivers) {later : Host} {waiting : List Bytes}
    (hserves : later.Serves receiver.socket waiting) (hplaces : holdings.host.SamePlaces later)
    {name : String} (hname : resolveName later.queueDirectory name = .ok receiver.path) :
    ∃ sender, Sender.open later name = .ok sender ∧
      later.store.socket? sender.path = some receiver.socket ∧
      ∀ message : Bytes, message.length ≤ Sender.messageLimit → (sender.send later message).1 = .ok () := by
  obtain ⟨hcheck, hnode⟩ := (hbound.kept hsound).leads hmem trivial
  rw [← hplaces.store] at hnode
  obtain ⟨access, hendpoint⟩ := hserves
  refine ⟨⟨name, receiver.path⟩, by simp [Sender.open, hname], Store.socket?_of_node hnode,
    fun message hfits => ?_⟩
  simp [Sender.send, Sender.deliver, hcheck, Nat.not_lt.2 hfits, hnode, hendpoint]

/-- However messages are sent to bound receivers and received by them: the answers of a receiver that is not
woken are its verdicts on the messages that arrived at its socket, one each and in order, but for those that
still wait, and the next receive answers the first of these. A message arrives at the socket that the path of
its sender leads to, which for a name of the queue is the receiver's, and at no other one. -/
theorem queues_pass_messages_in_order_and_apart (hsound : start.IsSound) (hbound : Bound start holdings)
    (actions : List (Action holdings.receivers)) :
    let events := (Action.performAll holdings.host actions).1
    let later := (Action.performAll holdings.host actions).2
    let store := holdings.host.store
    ∀ (receiver : Receiver) (hmem : receiver ∈ holdings.receivers),
      store.socket? receiver.path = some receiver.socket ∧
      (∀ other ∈ holdings.receivers, other ≠ receiver → other.path ≠ receiver.path ∧
        ∀ event ∈ events, event.arrival store other.socket = [] ∨ event.arrival store receiver.socket = []) ∧
      (receiver.capacity < 18446744073709551615 → .wake receiver hmem ∉ actions →
        ∃ taken waiting, arrivals store receiver.socket events = taken ++ waiting ∧
          answers receiver events = taken.map receiver.verdict ∧
          (receiver.receive later receiver.bufferSize).1 = receiver.nextAnswer waiting ∧
          ∀ name, resolveName later.queueDirectory name = .ok receiver.path →
            ∃ sender, Sender.open later name = .ok sender ∧
              later.store.socket? sender.path = some receiver.socket ∧
              ∀ message : Bytes, message.length ≤ Sender.messageLimit →
                (sender.send later message).1 = .ok ()) := by
  have hkept := hbound.kept hsound
  intro events later store receiver hmem
  refine ⟨Store.socket?_of_node (hkept.leads hmem trivial).2, fun other hother hne => ⟨fun hpath => ?_, ?_⟩,
    fun _ hwake => ?_⟩
  · exact hne ((hkept.owns hmem trivial).alone other hother hpath)
  · intro event _
    by_contra harrives
    obtain ⟨hthere, hhere⟩ := not_or.1 harrives
    exact hne (hkept.eq_of_socket hmem hother (Event.eq_of_arrival hhere hthere))
  · have hdistinct : ∀ other ∈ holdings.receivers, other.socket = receiver.socket → other = receiver :=
      fun other hother hsocket => hkept.eq_of_socket hmem hother hsocket
    obtain ⟨taken, waiting, hpasses⟩ :=
      Action.passes_performAll hmem hdistinct (hbound.serves hsound hmem) hwake
    refine ⟨taken, waiting, hpasses.messages, hpasses.answers,
      Receiver.receive_answers hpasses.serves, fun name hname => ?_⟩
    exact send_of_bound hsound hbound hmem hpasses.serves hpasses.places hname

/-- Two queues, one of them for messages of three bytes and the other for empty ones. A message of four bytes
comes between one of three and one that is still to be received, and the other queue is woken. -/
theorem too_large_message_between_two_others :
    let first : Receiver := ⟨"/b", "/b", 3, 0⟩
    let second : Receiver := ⟨"/c", "/c", 0, 1⟩
    let one : Host := { Host.isolated.setEndpoint 0 { access := .standard } with
      store := Store.initial.setNode ["b"] (.socket 0), nextEndpoint := 1 }
    let two : Host := { one.setEndpoint 1 { access := .standard } with
      store := one.store.setNode ["c"] (.socket 1), nextEndpoint := 2 }
    let bound : Holdings := ⟨two, [second, first]⟩
    let actions : List (Action bound.receivers) :=
      [.send ⟨"/b", "/b"⟩ [1, 2, 3], .send ⟨"/c", "/c"⟩ [], .send ⟨"/b", "/b"⟩ [1, 2, 3, 4],
        .receive first (by simp [bound]), .send ⟨"/b", "/b"⟩ [5], .receive second (by simp [bound]),
        .receive second (by simp [bound]), .receive first (by simp [bound]), .wake second (by simp [bound]),
        .send ⟨"/c", "/c"⟩ [6]]
    let events := (Action.performAll two actions).1
    let later := (Action.performAll two actions).2
    Host.isolated.IsSound ∧ Bound .isolated bound ∧
      answers first events = [.ok (some [1, 2, 3]), .error (.messageTooLarge 4 3)] ∧
      (first.receive later first.bufferSize).1 = .ok (some [5]) := by
  intro first second one two bound actions events later
  have hone : Bound .isolated ⟨one, [first]⟩ :=
    .bind .start (show Receiver.bind .isolated "/b" 3 .standard = (.ok first, one) by cbv)
  have htwo : Bound .isolated bound :=
    .bind hone (show Receiver.bind one "/c" 0 .standard = (.ok second, two) by cbv)
  have hwake : Action.wake first (by simp [bound]) ∉ actions := by
    simp [actions, first, second]
  obtain ⟨-, -, hpasses⟩ :=
    queues_pass_messages_in_order_and_apart Host.isSound_isolated htwo actions first (by simp [bound])
  obtain ⟨taken, waiting, harrivals, hanswers, hnext, -⟩ := hpasses (by decide) hwake
  have hsent : arrivals two.store 0 events = [[1, 2, 3], [1, 2, 3, 4]] ++ [[5]] := by cbv
  have hanswered : answers first events = [.ok (some [1, 2, 3]), .error (.messageTooLarge 4 3)] := by cbv
  have htaken : [[1, 2, 3], [1, 2, 3, 4]].length = taken.length := by
    rw [← List.length_map first.verdict, ← hanswers, hanswered]
    rfl
  obtain ⟨-, rfl⟩ := List.append_inj (hsent.symm.trans harrivals) htaken
  exact ⟨Host.isSound_isolated, htwo, hanswered, hnext⟩

end Holdings

end Queue

end Courier
