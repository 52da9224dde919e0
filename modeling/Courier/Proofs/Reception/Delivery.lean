import Courier.Proofs.Reception.Flow
import Courier.Proofs.Reception.Starting
import Mathlib

/-! # Delivery over a queue

What was sent to a server with one worker arrives once and in order, but for what does not fit. `Ongoing`
is the invariant of a scene in which carriers send and the worker works; it holds from the start on, and
once the queue is drained it says what the server has made of every letter.
-/

namespace Courier.Reception

namespace Scene

variable {limit : Nat} {start scene later : Scene} {receiver : Queue.Receiver} {sent : List Letter}

/-- The queue of the server is found by its name, and every carrier reaches it. -/
structure Connected (receiver : Queue.Receiver) (scene : Scene) : Prop where
  queue : scene.server.queue = some receiver
  address : scene.server.address ≠ ""
  name : Queue.resolveName scene.host.queueDirectory scene.server.address = .ok receiver.path
  path : scene.host.store.node true receiver.path = .ok (.socket receiver.socket)
  carriers : ∀ carrier ∈ scene.carriers, carrier.Reaches scene.host receiver.socket

theorem Connected.of_samePlaces (h : scene.Connected receiver) (hsame : scene.host.SamePlaces later.host)
    (hqueue : later.server.queue = scene.server.queue)
    (haddress : later.server.address = scene.server.address)
    (hcarriers : ∀ carrier ∈ later.carriers, carrier ∈ scene.carriers) : later.Connected receiver where
  queue := hqueue.trans h.queue
  address := haddress ▸ h.address
  name := by rw [hsame.queueDirectory, haddress, h.name]
  path := by rw [hsame.store, h.path]
  carriers := fun carrier hcarrier => (h.carriers carrier (hcarriers carrier hcarrier)).of_samePlaces hsame

/-- What holds in a scene with one worker after some letters were sent. -/
structure Ongoing (limit : Nat) (receiver : Queue.Receiver) (start : Scene) (sent : List Letter)
    (scene : Scene) : Prop where
  connected : scene.Connected receiver
  running : scene.server.pool.running = true
  flow : ∃ phase, scene.server.pool.phases = [phase] ∧
    Flow limit receiver start.desk start.server.pool.tally sent phase scene.host scene.desk
      scene.server.pool.tally

namespace Ongoing

theorem send (h : Ongoing limit receiver start sent scene) {carrier : Carrier}
    (hreaches : carrier.Reaches scene.host receiver.socket) (letter : Letter) :
    (∃ later, carrier.send scene.host letter.frame = (true, later, carrier) ∧
        Ongoing limit receiver start (sent ++ [letter]) { scene with host := later }) ∨
      carrier.send scene.host letter.frame = (false, scene.host, carrier) := by
  obtain ⟨phase, hphase, hflow⟩ := h.flow
  obtain ⟨wires, hserves, hnext⟩ := hflow.exists_serves
  rcases Carrier.send_cases hserves hreaches letter.frame with hfailed | ⟨wire, later, hwire, hsend, hlater, hsame⟩
  · exact .inr hfailed
  · refine .inl ⟨later, hsend, ?_, h.running, phase, hphase, hnext letter wire later hwire hlater⟩
    exact h.connected.of_samePlaces hsame rfl rfl fun _ hcarrier => hcarrier

theorem work (h : Ongoing limit receiver start sent scene)
    (hanswers : start.desk.router.AlwaysAnswers limit) :
    (scene.act limit .work).1 = [] ∧ Ongoing limit receiver start sent (scene.act limit .work).2 ∧
      (receiver.hasBuffer = true → scene.Drained ∨
        (scene.act limit .work).2.steps receiver < scene.steps receiver) := by
  obtain ⟨phase, hphase, hflow⟩ := h.flow
  obtain ⟨nextPhase, counted, host, desk, hadvance, hnext, hsame, hmoved⟩ :=
    hflow.advance hanswers h.running rfl
  have hact : scene.act limit .work = ([], { scene with
      host, desk
      server := { scene.server with pool :=
        { scene.server.pool with phases := [nextPhase], tally := counted } } }) := by
    simp [act, h.connected.queue, Pool.step, hphase, hadvance]
  rw [hact]
  refine ⟨rfl, ⟨?_, h.running, nextPhase, rfl, hnext⟩, fun hbuffer => ?_⟩
  · exact h.connected.of_samePlaces hsame rfl rfl fun _ hcarrier => hcarrier
  · rcases hmoved hbuffer with ⟨hfree, hqueued⟩ | hless
    · refine .inl ⟨receiver, h.connected.queue, hqueued, fun other hother => ?_⟩
      rw [hphase, List.mem_singleton] at hother
      rw [hother, hfree]
    · right
      simpa [steps, hphase] using hless

/-- A command that is sent on the program's own behalf is a letter like any other. -/
theorem inform (h : Ongoing limit receiver start sent scene) (command : String) :
    (∃ later, Carrier.inform scene.host scene.server.address command = (true, later) ∧
        Ongoing limit receiver start (sent ++ [.command Carrier.mainPeer command])
          { scene with host := later }) ∨
      Carrier.inform scene.host scene.server.address command = (false, scene.host) := by
  obtain ⟨carrier, hestablish, hreaches⟩ :=
    Carrier.establish_queue h.connected.name h.connected.address h.connected.path {}
  have hinform : Carrier.inform scene.host scene.server.address command =
      ((carrier.send scene.host (Letter.command Carrier.mainPeer command).frame).1,
        (carrier.send scene.host (Letter.command Carrier.mainPeer command).frame).2.1) := by
    rw [Carrier.inform, hestablish]
    rfl
  rw [hinform]
  rcases h.send hreaches (.command Carrier.mainPeer command) with ⟨later, hsend, hlater⟩ | hfailed
  · rw [hsend]
    exact .inl ⟨later, rfl, hlater⟩
  · rw [hfailed]
    exact .inr rfl

theorem act (h : Ongoing limit receiver start sent scene)
    (hanswers : start.desk.router.AlwaysAnswers limit) (action : Action) :
    Ongoing limit receiver start (sent ++ (scene.act limit action).1) (scene.act limit action).2 := by
  cases action with
  | work =>
    obtain ⟨hnone, hnext, -⟩ := h.work hanswers
    rw [hnone, List.append_nil]
    exact hnext
  | inform command =>
    rw [Scene.act]
    rcases h.inform command with ⟨later, hinform, hlater⟩ | hinform
    · rw [hinform]
      exact hlater
    · rw [hinform]
      simpa using h
  | send index letter =>
    rw [Scene.act]
    split
    · simpa using h
    · rename_i carrier hcarrier
      have hset : scene.carriers.set index carrier = scene.carriers := by
        obtain ⟨hindex, rfl⟩ := List.getElem?_eq_some_iff.1 hcarrier
        exact List.set_getElem_self hindex
      have hreaches := h.connected.carriers carrier (List.mem_of_getElem? hcarrier)
      rw [Carrier.sendLetter_eq]
      rcases h.send hreaches letter with ⟨later, hsend, hlater⟩ | hsend
      · rw [hsend]
        simpa [hset] using hlater
      · rw [hsend]
        simpa [hset] using h

theorem run (h : Ongoing limit receiver start sent scene)
    (hanswers : start.desk.router.AlwaysAnswers limit) (actions : List Action) :
    Ongoing limit receiver start (sent ++ (Scene.run limit actions scene).1)
      (Scene.run limit actions scene).2 := by
  induction actions generalizing sent scene with
  | nil => simpa [Scene.run] using h
  | cons action actions ih =>
    have hnext := ih (h.act hanswers action)
    rw [List.append_assoc] at hnext
    exact hnext

/-- A worker with a buffer drains the queue if it is left to itself. -/
theorem exists_drained (h : Ongoing limit receiver start sent scene)
    (hanswers : start.desk.router.AlwaysAnswers limit) (hbuffer : receiver.hasBuffer = true) :
    ∃ count, (Scene.run limit (List.replicate count .work) scene).2.Drained := by
  -- on the steps left, of which each step of the worker takes one
  induction hsteps : scene.steps receiver using Nat.strongRecOn generalizing scene with
  | ind steps ih =>
    obtain ⟨-, hnext, hmoved⟩ := h.work hanswers
    rcases hmoved hbuffer with hdrained | hless
    · exact ⟨0, hdrained⟩
    · obtain ⟨count, hcount⟩ := ih _ (hsteps ▸ hless) hnext rfl
      exact ⟨count + 1, hcount⟩

end Ongoing

theorem run_append (limit : Nat) (earlier later : List Action) (scene : Scene) :
    (run limit (earlier ++ later) scene).2 = (run limit later (run limit earlier scene).2).2 := by
  induction earlier generalizing scene with
  | nil => rfl
  | cons action actions ih => exact ih _

end Scene

/-- The queue of a started server is bound to its name, and its workers wait for messages unless they got
no buffer for them. -/
theorem Server.of_start {host later : Host} {server started : Server}
    (h : server.start host = (.ok (), later, started)) :
    ∃ receiver, started = { server with
        queue := some receiver
        pool := { server.pool with
          running := true
          phases := List.replicate (max server.config.workers 1)
            (if receiver.hasBuffer then .idle else .done) } } ∧
      receiver.capacity = server.config.capacity ∧ server.address ≠ "" ∧
      Queue.resolveName later.queueDirectory server.address = .ok receiver.path ∧
      later.store.node true receiver.path = .ok (.socket receiver.socket) ∧
      later.Serves receiver.socket [] := by
  rcases start_cases h with ⟨-, hrefused, -⟩ | ⟨-, error, cause, hfailed, -⟩ | ⟨-, receiver, -, rfl, hbind⟩
  · cases hrefused
  · cases hfailed
  · obtain ⟨hcapacity, hname, hbound⟩ := Queue.Receiver.of_bind hbind
    refine ⟨receiver, rfl, hcapacity, fun haddress => ?_, hname, hbound⟩
    rw [haddress] at hname
    cases hname

def Server.IsReachedBy (server : Server) (host : Host) (carrier : Carrier) : Prop :=
  ∃ receiver, server.queue = some receiver ∧ carrier.Reaches host receiver.socket

namespace Scene

variable {host : Host} {server : Server} {scene : Scene} {limit : Nat}

theorem Ongoing.of_start (h : server.start host = (.ok (), scene.host, scene.server))
    (hworkers : server.config.workers ≤ 1)
    (hreaches : ∀ carrier ∈ scene.carriers, scene.server.IsReachedBy scene.host carrier) (limit : Nat) :
    ∃ receiver, receiver.capacity = server.config.capacity ∧ Ongoing limit receiver scene [] scene := by
  obtain ⟨receiver, hstarted, hcapacity, haddress, hname, hpath, hserves⟩ := Server.of_start h
  have hphases : scene.server.pool.phases = [if receiver.hasBuffer then .idle else .done] := by
    rw [hstarted, Nat.max_eq_right hworkers]
    rfl
  have hqueue : scene.server.queue = some receiver := by rw [hstarted]
  refine ⟨receiver, hcapacity, ⟨hqueue, ?_, ?_, hpath, ?_⟩, ?_, _, hphases, [], [], [], [], rfl, ?_,
    hserves, .nil⟩
  · rw [hstarted]
    exact haddress
  · rw [hstarted]
    exact hname
  · intro carrier hcarrier
    obtain ⟨other, hother, hcarrier⟩ := hreaches carrier hcarrier
    rw [hqueue, Option.some.injEq] at hother
    rw [hother]
    exact hcarrier
  · rw [hstarted]
  · cases hbuffer : receiver.hasBuffer with
    | true => exact .idle
    | false => exact .done hbuffer

/-- In whatever order carriers send letters and the worker takes its steps, once the queue is drained the
inbox has the texts of the letters that were sent and fit, in order, with the number of segments and the
last of them; each command among them was routed once, in order, and nothing else was; and the tally has
grown by the letters sent, those that fit and those that do not. A worker with a buffer drains the queue
if it is left to itself. -/
theorem letters_arrive_once_in_order (hstart : server.start host = (.ok (), scene.host, scene.server))
    (hworkers : server.config.workers ≤ 1) (hinbox : scene.desk.inbox = {})
    (hreaches : ∀ carrier ∈ scene.carriers, scene.server.IsReachedBy scene.host carrier)
    (hanswers : scene.desk.router.AlwaysAnswers limit) (actions : List Action) :
    let run := run limit actions scene
    let arrived := run.1.filter (·.fits server.config.capacity)
    let commands := arrived.filterMap Letter.command?
    let tally := scene.server.pool.tally
    (run.2.Drained →
      run.2.desk.inbox = {
        lastSegment := (arrived.filterMap Letter.segment?).getLast?
        segments := (arrived.filterMap Letter.segment?).length
        logs := arrived.filterMap Letter.log?
        yamls := arrived.filterMap Letter.yaml? } ∧
      run.2.desk.router = scene.desk.router.routeAll limit commands ∧
      (scene.desk.router.current.AnswersAtOnce → run.2.desk.router.history =
        scene.desk.router.history ++
          commands.map fun command => .called scene.desk.router.current command.1 command.2) ∧
      run.2.server.pool.tally = {
        received := tally.received + run.1.length
        accepted := tally.accepted + arrived.length
        rejected := tally.rejected
        failed := tally.failed + (run.1.filter (!·.fits server.config.capacity)).length }) ∧
    (server.config.capacity < 9223372036854775807 →
      ∃ count, (Scene.run limit (actions ++ List.replicate count .work) scene).2.Drained) := by
  intro run arrived commands tally
  obtain ⟨receiver, hreceiver, hongoing⟩ := Ongoing.of_start hstart hworkers hreaches limit
  have hlast := hongoing.run hanswers actions
  rw [List.nil_append] at hlast
  constructor
  · rintro ⟨other, hother, hqueued, hfree⟩
    obtain rfl : other = receiver := Option.some.inj (hother.symm.trans hlast.connected.queue)
    obtain ⟨phase, hphase, hflow⟩ := hlast.flow
    have hphase : phase ∈ run.2.server.pool.phases := by simp only [run, hphase, List.mem_singleton]
    obtain ⟨hdesk, htally⟩ := hflow.of_drained hqueued (hfree phase hphase)
    rw [Desk.after, hreceiver, Letter.enterAll_eq, hinbox] at hdesk
    rw [hreceiver] at htally
    have hrouter : run.2.desk.router = scene.desk.router.routeAll limit commands :=
      congrArg Desk.router hdesk
    refine ⟨?_, hrouter, fun hatOnce => ?_, htally⟩
    · refine (congrArg Desk.inbox hdesk).trans ?_
      simp [arrived, run]
    · rw [hrouter, Command.Router.routeAll_of_answersAtOnce hatOnce
        (Command.Router.three_le_of_alwaysAnswers hatOnce hanswers)]
  · intro hbuffer
    have hbuffer : receiver.hasBuffer = true := by
      rw [Queue.Receiver.hasBuffer, Queue.Receiver.bufferSize, hreceiver, decide_eq_true_iff,
        Queue.Receiver.largestBuffer]
      omega
    obtain ⟨count, hcount⟩ := hlast.exists_drained hanswers hbuffer
    refine ⟨count, ?_⟩
    rw [run_append]
    exact hcount

/-- A host on which one server was started, whose queue is at the root, with a carrier that reaches it. -/
def ofRootQueue (capacity : Nat) : Scene where
  host := { Host.isolated.setEndpoint 0 { access := .standard } with
    store := Store.initial.setNode ["b"] (.socket 0)
    nextEndpoint := 1 }
  server := {
    address := "/b"
    access := .standard
    config := { workers := 1, capacity }
    queue := some ⟨"/b", "/b", capacity, 0⟩
    pool := { running := true, phases := [.idle] } }
  desk := {}
  carriers := [{ transport := some (.queue ⟨"/b", "/b"⟩) }]

/-- Of three letters to a queue for sixty bytes one is too large. -/
theorem oversized_letter_is_dropped :
    let server : Server := { address := "/b", access := .standard, config := { workers := 1, capacity := 60 } }
    let scene := ofRootQueue 60
    let actions : List Action := [.send 0 (.yaml "a" "longer than it fits"), .work, .inform "reload",
      .send 0 (.segment "b" 7 [1, 2])] ++ List.replicate 14 .work
    server.start .isolated = (.ok (), scene.host, scene.server) ∧
      (∀ carrier ∈ scene.carriers, scene.server.IsReachedBy scene.host carrier) ∧
      scene.desk.router.AlwaysAnswers 10 ∧
      (run 10 actions scene).2.Drained ∧
      (run 10 actions scene).2.desk.inbox
        = { lastSegment := some ⟨"b", 7, ⟨7⟩, [1, 2]⟩, segments := 1, logs := [], yamls := [] } ∧
      (run 10 actions scene).2.desk.router.history = [.called .words "main" "reload"] ∧
      (run 10 actions scene).2.server.pool.tally
        = { received := 3, accepted := 2, rejected := 0, failed := 1 } := by
  intro server scene actions
  have hstart : server.start .isolated = (.ok (), scene.host, scene.server) := by cbv
  have hreaches : ∀ carrier ∈ scene.carriers, scene.server.IsReachedBy scene.host carrier := by
    intro carrier hcarrier
    obtain rfl := List.mem_singleton.1 hcarrier
    exact ⟨⟨"/b", "/b", 60, 0⟩, rfl, ⟨"/b", "/b"⟩, rfl, by cbv⟩
  have hatOnce : scene.desk.router.current.AnswersAtOnce := Command.Processor.words_answersAtOnce
  have hanswers : scene.desk.router.AlwaysAnswers 10 :=
    Command.Router.alwaysAnswers_of_answersAtOnce hatOnce (by decide)
  have hsent : (run 10 actions scene).1 = [.yaml "a" "longer than it fits", .command "main" "reload",
      .segment "b" 7 [1, 2]] := by cbv
  have hphases : (run 10 actions scene).2.server.pool.phases = [.receiving] := by cbv
  have hdrained : (run 10 actions scene).2.Drained := by
    refine ⟨⟨"/b", "/b", 60, 0⟩, by cbv, by cbv, ?_⟩
    simp [hphases, Phase.isFree]
  obtain ⟨harrived, -⟩ := letters_arrive_once_in_order hstart (by decide) rfl hreaches hanswers
    actions
  obtain ⟨hinbox, -, hhistory, htally⟩ := harrived hdrained
  rw [hsent] at hinbox hhistory htally
  exact ⟨hstart, hreaches, hanswers, hdrained, hinbox, hhistory hatOnce, htally⟩

end Scene

end Courier.Reception
