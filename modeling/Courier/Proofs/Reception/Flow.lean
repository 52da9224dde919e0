import Courier.Proofs.Queue.Passing
import Courier.Proofs.Reception.Letters
import Courier.Reception.Server
import Mathlib.Data.List.Forall2

/-! # The flow of letters

A `Scene` is a server and carriers that send letters to it, while its worker takes steps, in any order.
`Flow` follows every letter that was sent: it is handled, in the hand of the worker or queued, and desk
and tally are what the handled ones have made of them. `Flow.advance` is one step of the worker.
-/

namespace Courier

open Reception (Letter)

def Carrier.sendLetter (host : Host) (carrier : Carrier) : Letter → Bool × Host × Carrier
  | .log peer text => carrier.sendLog host peer text
  | .yaml peer text => carrier.sendYaml host peer text
  | .segment peer answerId data => carrier.sendSegment host peer answerId data
  | .command peer text => carrier.sendCommand host peer text

theorem Carrier.sendLetter_eq (host : Host) (carrier : Carrier) (letter : Letter) :
    carrier.sendLetter host letter = carrier.send host letter.frame := by
  cases letter <;> rfl

def Host.queued (host : Host) (socket : Nat) : List Bytes :=
  ((host.endpoints.get? socket).map (·.queue)).getD []

theorem Host.Serves.queued_eq {host : Host} {socket : Nat} {queued : List Bytes}
    (h : host.Serves socket queued) : host.queued socket = queued := by
  obtain ⟨access, hendpoint⟩ := h
  rw [Host.queued, hendpoint]
  rfl

namespace Reception

structure Scene where
  host : Host
  server : Server
  desk : Desk
  carriers : List Carrier

inductive Action where
  | send (carrier : Nat) (letter : Letter)
  /-- A command is sent to the server on the program's own behalf. -/
  | inform (command : String)
  /-- The worker takes its next step. -/
  | work

/-- A bound on the steps that a worker still takes for the message in its hand. -/
def Phase.steps : Phase → Nat
  | .receiving | .done => 0
  | .idle => 1
  | .judged _ | .oversizedCounted => 2
  | .handling _ | .oversized => 3
  | .holding _ => 4

theorem Phase.steps_le (phase : Phase) : phase.steps ≤ 4 := by
  cases phase <;> simp [Phase.steps]

/-- Whether a worker has nothing to do until it takes the next message. -/
def Phase.isFree : Phase → Bool
  | .idle | .receiving | .done => true
  | _ => false

namespace Scene

/-- What one action does, with the letter if one was sent. Commands take so many steps at most. -/
def act (limit : Nat) (scene : Scene) : Action → List Letter × Scene
  | .send index letter =>
    match scene.carriers[index]? with
    | none => ([], scene)
    | some carrier =>
      let (sent, host, carrier) := carrier.sendLetter scene.host letter
      (if sent then [letter] else [],
        { scene with host, carriers := scene.carriers.set index carrier })
  | .inform command =>
    let (sent, host) := Carrier.inform scene.host scene.server.address command
    (if sent then [.command Carrier.mainPeer command] else [], { scene with host })
  | .work =>
    match scene.server.queue with
    | none => ([], scene)
    | some receiver =>
      let (pool, host, desk) :=
        scene.server.pool.step (deliverWithin limit) receiver 0 scene.host scene.desk
      ([], { scene with host, desk, server := { scene.server with pool } })

def run (limit : Nat) : List Action → Scene → List Letter × Scene
  | [], scene => ([], scene)
  | action :: actions, scene =>
    let (sent, next) := scene.act limit action
    let (later, last) := run limit actions next
    (sent ++ later, last)

def steps (receiver : Queue.Receiver) (scene : Scene) : Nat :=
  scene.server.pool.phases.foldr (·.steps + ·) (5 * (scene.host.queued receiver.socket).length)

/-- Nothing is queued, and no worker has a message in its hand. -/
def Drained (scene : Scene) : Prop :=
  ∃ receiver, scene.server.queue = some receiver ∧ scene.host.queued receiver.socket = [] ∧
    ∀ phase ∈ scene.server.pool.phases, phase.isFree = true

end Scene

def Letter.fits (capacity : Nat) (letter : Letter) : Bool :=
  decide (letter.frame.wireSize ≤ capacity)

def Tally.after (tally : Tally) (capacity : Nat) (letters : List Letter) : Tally :=
  { received := tally.received + letters.length
    accepted := tally.accepted + (letters.filter (·.fits capacity)).length
    rejected := tally.rejected
    failed := tally.failed + (letters.filter (!·.fits capacity)).length }

def Tally.receive (tally : Tally) : Tally := { tally with received := tally.received + 1 }

theorem Tally.after_accepted {capacity : Nat} {letter : Letter} (h : letter.fits capacity = true)
    (tally : Tally) (letters : List Letter) : (tally.after capacity letters).receive.count .accepted
      = tally.after capacity (letters ++ [letter]) := by
  simp [after, receive, count, h]
  omega

theorem Tally.after_failed {capacity : Nat} {letter : Letter} (h : letter.fits capacity = false)
    (tally : Tally) (letters : List Letter) :
    { (tally.after capacity letters).receive with failed := (tally.after capacity letters).failed + 1 }
      = tally.after capacity (letters ++ [letter]) := by
  simp [after, receive, h]
  omega

/-- The desk after some more letters; those that do not fit leave no trace on it. -/
def Desk.after (limit : Nat) (desk : Desk) (capacity : Nat) (letters : List Letter) : Desk :=
  Letter.enterAll limit desk (letters.filter (·.fits capacity))

theorem Desk.after_fitting {limit capacity : Nat} {letter : Letter} (h : letter.fits capacity = true)
    (desk : Desk) (letters : List Letter) : desk.after limit capacity (letters ++ [letter])
      = letter.enter limit (desk.after limit capacity letters) := by
  simp [after, h, Letter.enterAll_append]

theorem Desk.after_oversized {limit capacity : Nat} {letter : Letter} (h : letter.fits capacity = false)
    (desk : Desk) (letters : List Letter) : desk.after limit capacity (letters ++ [letter])
      = desk.after limit capacity letters := by
  simp [after, h]

/-- What a worker at some phase has in its hand, and what it has made of desk and tally, after it was done
with the first letters. -/
inductive Hand (limit : Nat) (receiver : Queue.Receiver) (desk : Desk) (tally : Tally)
    (handled : List Letter) : Phase → List Letter → Desk → Tally → Prop
  | idle : Hand limit receiver desk tally handled .idle []
      (desk.after limit receiver.capacity handled) (tally.after receiver.capacity handled)
  | receiving : Hand limit receiver desk tally handled .receiving []
      (desk.after limit receiver.capacity handled) (tally.after receiver.capacity handled)
  | holding {letter : Letter} {wire : Bytes} (hwire : letter.frame.encode = .ok wire)
      (hfits : letter.fits receiver.capacity = true) :
      Hand limit receiver desk tally handled (.holding wire) [letter]
        (desk.after limit receiver.capacity handled) (tally.after receiver.capacity handled)
  | handling {letter : Letter} {wire : Bytes} (hwire : letter.frame.encode = .ok wire)
      (hfits : letter.fits receiver.capacity = true) :
      Hand limit receiver desk tally handled (.handling wire) [letter]
        (desk.after limit receiver.capacity handled) (tally.after receiver.capacity handled).receive
  | judged {letter : Letter} (hfits : letter.fits receiver.capacity = true) :
      Hand limit receiver desk tally handled (.judged .accepted) [letter]
        (desk.after limit receiver.capacity (handled ++ [letter]))
        (tally.after receiver.capacity handled).receive
  | oversized {letter : Letter} (hfits : letter.fits receiver.capacity = false) :
      Hand limit receiver desk tally handled .oversized [letter]
        (desk.after limit receiver.capacity handled) (tally.after receiver.capacity handled)
  | oversizedCounted {letter : Letter} (hfits : letter.fits receiver.capacity = false) :
      Hand limit receiver desk tally handled .oversizedCounted [letter]
        (desk.after limit receiver.capacity handled) (tally.after receiver.capacity handled).receive
  /-- Only a worker without a buffer comes to its end while the server runs. -/
  | done (hbuffer : receiver.hasBuffer = false) : Hand limit receiver desk tally handled .done []
      (desk.after limit receiver.capacity handled) (tally.after receiver.capacity handled)

theorem Letter.fits_iff {letter : Letter} {wire : Bytes} (h : letter.frame.encode = .ok wire)
    (capacity : Nat) : letter.fits capacity = true ↔ wire.length ≤ capacity := by
  rw [fits, decide_eq_true_iff, Frame.length_of_encode h]

theorem Desk.answers_after {limit : Nat} {desk : Desk} (h : desk.router.AlwaysAnswers limit)
    (capacity : Nat) (letters : List Letter) (peer text : String) : ∃ accepted,
      ((desk.after limit capacity letters).router.routeWithin limit peer text).1 = .answered accepted := by
  rw [Desk.after, Letter.enterAll_eq]
  exact h _ peer text

namespace Hand

variable {limit : Nat} {receiver : Queue.Receiver} {desk state : Desk} {tally counted : Tally}
  {handled held : List Letter} {phase : Phase}

/-- A letter is in the hand of the worker that takes its message, whether it fits or not. -/
theorem of_taken {letter : Letter} {wire : Bytes} (hwire : letter.frame.encode = .ok wire) :
    Hand limit receiver desk tally handled
      (Pool.taken (if wire.length ≤ receiver.capacity then .ok (some wire)
        else .error (.messageTooLarge (receiver.capacity + 1) receiver.capacity)))
      [letter] (desk.after limit receiver.capacity handled)
      (tally.after receiver.capacity handled) := by
  by_cases hfits : wire.length ≤ receiver.capacity
  · rw [if_pos hfits]
    exact .holding hwire ((Letter.fits_iff hwire _).2 hfits)
  · rw [if_neg hfits]
    exact .oversized (Bool.eq_false_iff.2 fun h => hfits ((Letter.fits_iff hwire _).1 h))

/-- A worker that is not about to take a message goes on with what it has in its hand. -/
theorem advance (h : Hand limit receiver desk tally handled phase held state counted)
    (hphase : phase ≠ .receiving) (hanswers : desk.router.AlwaysAnswers limit) {pool : Pool}
    (hrunning : pool.running = true) (hcount : pool.tally = counted) (host : Host) :
    ∃ nextHandled nextHeld nextPhase nextCounted nextState,
      pool.advance (deliverWithin limit) receiver host state phase
        = (nextPhase, nextCounted, host, nextState) ∧
      Hand limit receiver desk tally nextHandled nextPhase nextHeld nextState nextCounted ∧
      nextHandled ++ nextHeld = handled ++ held ∧
      (receiver.hasBuffer = true → nextPhase.steps < phase.steps) := by
  cases h with
  | receiving => exact absurd rfl hphase
  | idle =>
    refine ⟨_, _, .receiving, _, _, ?_, .receiving, rfl, fun _ => by decide⟩
    simp [Pool.advance, hrunning, hcount]
  | @holding letter wire hwire hfits =>
    refine ⟨_, _, .handling wire, _, _, ?_, .handling hwire hfits, rfl, fun _ => by simp [Phase.steps]⟩
    simp [Pool.advance, hrunning, hcount, Tally.receive]
  | @handling letter wire hwire hfits =>
    have hdelivered := Letter.deliver_wire hwire (Desk.answers_after hanswers receiver.capacity handled)
    refine ⟨_, _, .judged .accepted, _, _, ?_, .judged hfits, rfl, fun _ => by simp [Phase.steps]⟩
    simp [Pool.advance, hdelivered, hcount, Desk.after_fitting hfits]
  | @judged letter hfits =>
    refine ⟨handled ++ [letter], _, .idle, _, _, ?_, .idle, List.append_nil _, fun _ => by decide⟩
    simp [Pool.advance, hcount, Tally.after_accepted hfits]
  | @oversized letter hfits =>
    refine ⟨_, _, .oversizedCounted, _, _, ?_, .oversizedCounted hfits, rfl, fun _ => by decide⟩
    simp [Pool.advance, hcount, Tally.receive]
  | @oversizedCounted letter hfits =>
    have hhand : Hand limit receiver desk tally (handled ++ [letter]) .idle [] _ _ := .idle
    rw [Desk.after_oversized hfits, ← Tally.after_failed hfits] at hhand
    refine ⟨_, _, .idle, _, _, ?_, hhand, List.append_nil _, fun _ => by decide⟩
    simp [Pool.advance, hcount, Tally.receive]
  | done hbuffer =>
    refine ⟨_, _, .done, _, _, ?_, .done hbuffer, rfl, fun h => ?_⟩
    · simp [Pool.advance, hcount]
    · rw [hbuffer] at h
      cases h

end Hand

/-- Every letter that was sent is handled, in the hand of the worker or queued, in this order. -/
def Flow (limit : Nat) (receiver : Queue.Receiver) (desk : Desk) (tally : Tally) (sent : List Letter)
    (phase : Phase) (host : Host) (state : Desk) (counted : Tally) : Prop :=
  ∃ handled held queued wires, sent = handled ++ held ++ queued ∧
    Hand limit receiver desk tally handled phase held state counted ∧
    host.Serves receiver.socket wires ∧
    List.Forall₂ (fun (wire : Bytes) (letter : Letter) => letter.frame.encode = .ok wire) wires queued

namespace Flow

variable {limit : Nat} {receiver : Queue.Receiver} {desk state : Desk} {tally counted : Tally}
  {sent : List Letter} {phase : Phase} {host : Host}

/-- A worker that is about to take a message takes the first letter that is queued, if there is one. -/
theorem take (h : Flow limit receiver desk tally sent .receiving host state counted)
    {pool : Pool} (hcount : pool.tally = counted) :
    ∃ nextPhase nextHost,
      pool.advance (deliverWithin limit) receiver host state .receiving
        = (nextPhase, counted, nextHost, state) ∧
      Flow limit receiver desk tally sent nextPhase nextHost state counted ∧
      host.SamePlaces nextHost ∧
      (host.queued receiver.socket = [] ∨
        (nextHost.queued receiver.socket).length + 1 = (host.queued receiver.socket).length) := by
  obtain ⟨handled, held, queued, wires, rfl, hhand, hserves, hwires⟩ := h
  cases hhand
  cases hwires with
  | nil =>
    refine ⟨.idle, _, ?_, ⟨handled, [], [], [], rfl, .idle, hserves, .nil⟩, .refl host,
      .inl hserves.queued_eq⟩
    simp [Pool.advance, Queue.Receiver.receive_of_empty hserves, Pool.taken, hcount]
  | @cons wire letter wires queued hwire hwires =>
    obtain ⟨later, hlater, hsame, hreceive⟩ := Queue.Receiver.receive_of_queued hserves
    refine ⟨_, later, ?_,
      ⟨handled, [letter], queued, wires, by simp, .of_taken hwire, hlater, hwires⟩, hsame, .inr ?_⟩
    · simp [Pool.advance, hreceive, hcount]
    · rw [hserves.queued_eq, hlater.queued_eq, List.length_cons]

/-- A step of the worker moves a letter on, or there is none. -/
theorem advance (h : Flow limit receiver desk tally sent phase host state counted)
    (hanswers : desk.router.AlwaysAnswers limit)
    {pool : Pool} (hrunning : pool.running = true) (hcounted : pool.tally = counted) :
    ∃ nextPhase nextCounted nextHost nextState,
      pool.advance (deliverWithin limit) receiver host state phase
        = (nextPhase, nextCounted, nextHost, nextState) ∧
      Flow limit receiver desk tally sent nextPhase nextHost nextState nextCounted ∧
      host.SamePlaces nextHost ∧
      (receiver.hasBuffer = true → phase.isFree = true ∧ host.queued receiver.socket = [] ∨
        nextPhase.steps + 5 * (nextHost.queued receiver.socket).length
          < phase.steps + 5 * (host.queued receiver.socket).length) := by
  by_cases hphase : phase = .receiving
  · subst hphase
    obtain ⟨nextPhase, nextHost, hadvance, hnext, hsame, hqueued⟩ := h.take hcounted
    refine ⟨nextPhase, counted, nextHost, state, hadvance, hnext, hsame, fun _ => ?_⟩
    rcases hqueued with hempty | hless
    · exact .inl ⟨rfl, hempty⟩
    · right
      have hsteps := nextPhase.steps_le
      omega
  · obtain ⟨handled, held, queued, wires, rfl, hhand, hserves, hwires⟩ := h
    obtain ⟨nextHandled, nextHeld, nextPhase, nextCounted, nextState, hadvance, hnext, hletters, hless⟩ :=
      hhand.advance hphase hanswers hrunning hcounted host
    refine ⟨nextPhase, nextCounted, host, nextState, hadvance, ?_, .refl host, fun hbuffer => ?_⟩
    · exact ⟨nextHandled, nextHeld, queued, wires, by rw [hletters], hnext, hserves, hwires⟩
    · exact .inr (Nat.add_lt_add_right (hless hbuffer) _)

/-- A letter that is sent takes its place at the end of the queue. -/
theorem exists_serves (h : Flow limit receiver desk tally sent phase host state counted) :
    ∃ wires, host.Serves receiver.socket wires ∧ ∀ letter wire later,
      letter.frame.encode = .ok wire → later.Serves receiver.socket (wires ++ [wire]) →
        Flow limit receiver desk tally (sent ++ [letter]) phase later state counted := by
  obtain ⟨handled, held, queued, wires, rfl, hhand, hserves, hwires⟩ := h
  refine ⟨wires, hserves, fun letter wire later hwire hlater => ?_⟩
  refine ⟨handled, held, queued ++ [letter], wires ++ [wire], by simp, hhand, hlater, ?_⟩
  exact List.rel_append hwires (.cons hwire .nil)

theorem of_drained (h : Flow limit receiver desk tally sent phase host state counted)
    (hqueued : host.queued receiver.socket = []) (hfree : phase.isFree = true) :
    state = desk.after limit receiver.capacity sent ∧ counted = tally.after receiver.capacity sent := by
  obtain ⟨handled, held, queued, wires, rfl, hhand, hserves, hwires⟩ := h
  rw [hserves.queued_eq] at hqueued
  subst hqueued
  cases hwires
  cases hhand with
  | idle | receiving | done => simp
  | holding | handling | judged | oversized | oversizedCounted => cases hfree

end Flow

end Reception

end Courier
