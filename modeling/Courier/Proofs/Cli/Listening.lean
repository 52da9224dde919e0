import Courier.Cli.Listen
import Courier.Proofs.Command.Routing
import Courier.Proofs.Frame.FirstFrame
import Courier.Proofs.Reception.Delivery
import Courier.Proofs.Reception.Settling

/-! # What a listener prints and routes

A listener hears the messages that arrive until enough frames are printed (`Heard`). What it prints are the
frames among them that are asked for, and the commands among them are routed whether they are asked for or
not. Messages that are too large come through to no one. `Listens` is what every message preserves.
-/

namespace Courier.Cli.Listen

variable {arguments : ListenArguments} {format : Format} {now : Nat} {router : Command.Router}
  {message : Bytes} {messages heard : List Bytes} {frame : Frame}

/-- The frame that a message is decoded to, if it is not empty. -/
def frame? (message : Bytes) : Option Frame :=
  match Frame.decode message with
  | .error _ => none
  | .ok view => view.toFrame?

theorem frame?_eq_some_iff : frame? message = some frame ↔ Frame.decode message = .ok frame.view := by
  rw [frame?]
  cases hdecode : Frame.decode message with
  | error error => simp
  | ok view => simp [Frame.View.toFrame?_eq_some_iff]

def command? (frame : Frame) : Option (String × String) :=
  if frame.kind = .command then (Text.ofUtf8? frame.payload).map fun text => (frame.provider, text) else none

/-- Whether a message comes through to a worker with a buffer for messages of the given size. -/
def comesThrough (capacity : Nat) (message : Bytes) : Bool :=
  decide (message.length ≤ capacity ∧ message.length ≤ Queue.Sender.messageLimit)

def passed (capacity : Nat) (messages : List Bytes) : List Frame :=
  (messages.filter (comesThrough capacity)).filterMap frame?

def due (arguments : ListenArguments) (messages : List Bytes) : List Frame :=
  (passed arguments.capacity messages).filter (wanted arguments.kinds)

/-- The router after some frames, whose commands are routed one after another if that is asked for. -/
def routerAfter (routeCommands : Bool) (router : Command.Router) (frames : List Frame) : Command.Router :=
  if routeCommands then router.routeAll Command.Router.stepLimit (frames.filterMap command?) else router

theorem passed_append (capacity : Nat) (earlier later : List Bytes) :
    passed capacity (earlier ++ later) = passed capacity earlier ++ passed capacity later := by
  simp [passed]

theorem due_append (arguments : ListenArguments) (earlier later : List Bytes) :
    due arguments (earlier ++ later) = due arguments earlier ++ due arguments later := by
  simp [due, passed_append]

theorem passed_singleton_cases (capacity : Nat) (message : Bytes) :
    passed capacity [message] = [] ∨ ∃ frame, passed capacity [message] = [frame] := by
  cases hcomes : comesThrough capacity message <;> cases hframe : frame? message <;>
    simp [passed, hcomes, hframe]

theorem length_due_singleton_le (arguments : ListenArguments) (message : Bytes) :
    (due arguments [message]).length ≤ 1 := by
  have hpassed : (passed arguments.capacity [message]).length ≤ 1 := by
    rcases passed_singleton_cases arguments.capacity message with hnone | ⟨frame, hframe⟩
    · simp [hnone]
    · simp [hframe]
  exact (List.length_filter_le _ _).trans hpassed

theorem routerAfter_append (routeCommands : Bool) (router : Command.Router) (earlier later : List Frame) :
    routerAfter routeCommands router (earlier ++ later)
      = routerAfter routeCommands (routerAfter routeCommands router earlier) later := by
  cases routeCommands
  · rfl
  · simp [routerAfter, Command.Router.routeAll]

/-- Commands are answered, whatever was routed before, if they are routed at all. -/
def Answers (routeCommands : Bool) (router : Command.Router) : Prop :=
  routeCommands = true → router.AlwaysAnswers Command.Router.stepLimit

theorem Answers.after {routeCommands : Bool} (h : Answers routeCommands router) (frames : List Frame) :
    Answers routeCommands (routerAfter routeCommands router frames) := by
  rintro rfl earlier peer command
  have hanswers := h rfl (frames.filterMap command? ++ earlier) peer command
  rw [Command.Router.routeAll, List.foldl_append] at hanswers
  exact hanswers

/-- A frame is passed on whatever it is, and a command that is text is routed first. -/
theorem forward_of_frame {routeCommands : Bool} {desk : Desk} (hframe : frame? message = some frame)
    (hanswers : Answers routeCommands desk.router) :
    forward routeCommands message desk
      = (.accepted, ⟨desk.frames ++ [frame], routerAfter routeCommands desk.router [frame]⟩) := by
  rw [frame?_eq_some_iff] at hframe
  rw [forward, hframe]
  cases routeCommands with
  | false => rfl
  | true =>
    simp only [Except.map, Frame.toFrame?_view, Bool.true_and]
    by_cases hcommand : frame.kind = .command
    · rw [if_pos (by simpa using hcommand), routed]
      cases htext : Text.ofUtf8? frame.payload with
      | none => simp [routerAfter, command?, hcommand, htext, Command.Router.routeAll]
      | some text =>
        obtain ⟨accepted, hanswered⟩ := hanswers rfl [] frame.provider text
        have hroute : desk.router.route frame.provider text
            = (.answered accepted, (desk.router.route frame.provider text).2) := Prod.ext hanswered rfl
        dsimp only
        rw [hroute]
        simp [routerAfter, command?, hcommand, htext, Command.Router.routeAll, Command.Router.route,
          Reception.Verdict.ofOutcome]
    · rw [if_neg (by simpa using hcommand)]
      simp [routerAfter, command?, hcommand, Command.Router.routeAll]

theorem forward_of_none {routeCommands : Bool} (hframe : frame? message = none) (desk : Desk) :
    forward routeCommands message desk = (.rejected, desk) := by
  rw [frame?] at hframe
  rw [forward]
  cases hdecode : Frame.decode message with
  | error error => rfl
  | ok view =>
    rw [hdecode] at hframe
    simp only [Except.map, hframe]

theorem after_forward {routeCommands : Bool} (hanswers : Answers routeCommands router) (capacity : Nat)
    (hroom : message.length ≤ Queue.Sender.messageLimit) :
    Reception.Handler.after (forward routeCommands) capacity message ⟨[], router⟩
      = ⟨passed capacity [message], routerAfter routeCommands router (passed capacity [message])⟩ := by
  have hnothing : routerAfter routeCommands router [] = router := by
    cases routeCommands <;> rfl
  rw [Reception.Handler.after]
  by_cases hfits : message.length ≤ capacity
  · have hcomes : comesThrough capacity message = true := decide_eq_true ⟨hfits, hroom⟩
    rw [if_pos hfits]
    cases hframe : frame? message with
    | none => simp [forward_of_none hframe, passed, hcomes, hframe, hnothing]
    | some frame =>
      have hforward : forward routeCommands message ⟨[], router⟩
          = (.accepted, ⟨[frame], routerAfter routeCommands router [frame]⟩) :=
        forward_of_frame hframe hanswers
      simp [hforward, passed, hcomes, hframe]
  · have hlost : comesThrough capacity message = false := decide_eq_false fun h => hfits h.1
    rw [if_neg hfits]
    simp [passed, hlost, hnothing]

def enough (arguments : ListenArguments) (printed : Nat) : Bool :=
  arguments.count.any fun count => decide (count ≤ printed)

theorem enough_eq_true_iff {printed : Nat} :
    enough arguments printed = true ↔ ∃ count, arguments.count = some count ∧ count ≤ printed := by
  rw [enough]
  cases arguments.count <;> simp

def lines (arguments : ListenArguments) (format : Format) (now : Nat) (frames : List Frame) : Bytes :=
  (frames.map (printFrame format now arguments.queue)).flatten

def printing (arguments : ListenArguments) (format : Format) (now : Nat) (frames : List Frame) : Printing where
  printed := frames.length
  output := lines arguments format now frames
  finished := enough arguments frames.length

theorem print_printing {frames : List Frame} (hunfinished : enough arguments frames.length = false)
    (frame : Frame) :
    print arguments format now (printing arguments format now frames) frame
      = printing arguments format now (frames ++ [frame].filter (wanted arguments.kinds)) := by
  rw [print]
  cases hwanted : wanted arguments.kinds frame with
  | false => simp [hwanted]
  | true =>
    simp only [printing, hunfinished, Bool.not_true, Bool.or_self, Bool.false_eq_true, if_false,
      List.filter_cons_of_pos hwanted, List.filter_nil, List.length_append, List.length_singleton, lines,
      List.map_append, List.flatten_append, List.map_cons, List.map_nil, List.flatten_singleton]
    cases hcount : arguments.count <;> simp [enough, hcount]

structure Listens (arguments : ListenArguments) (format : Format) (now : Nat) (router : Command.Router)
    (receiver : Queue.Receiver) (heard : List Bytes) (session : Session) : Prop where
  queue : session.server.queue = some receiver
  reached : session.host.store.node true receiver.path = .ok (.socket receiver.socket)
  serves : session.host.Serves receiver.socket []
  atRest : session.server.pool.AtRest
  desk : session.desk
    = ⟨[], routerAfter arguments.routeCommands router (passed arguments.capacity heard)⟩
  printing : session.printing = printing arguments format now (due arguments heard)

structure Fits (arguments : ListenArguments) (receiver : Queue.Receiver) : Prop where
  capacity : receiver.capacity = arguments.capacity
  checked : Host.checkSocketPath receiver.path = .ok ()

namespace Listens

variable {receiver : Queue.Receiver} {session : Session}

/-- A message that arrives is handled, and its frame is printed if it is asked for. -/
theorem receive (h : Listens arguments format now router receiver heard session)
    (hfits : Fits arguments receiver) (hanswers : Answers arguments.routeCommands router)
    (hunfinished : enough arguments (due arguments heard).length = false) (message : Bytes) :
    Listens arguments format now router receiver (heard ++ [message])
      (session.receive arguments format now message) := by
  have hgoes : session.printing.finished = false := by rw [h.printing]; exact hunfinished
  have hpath : session.server.path? = some receiver.path := by rw [Reception.Server.path?, h.queue]; rfl
  rw [Session.receive, hgoes, if_neg Bool.false_ne_true, hpath]
  dsimp only
  rcases Queue.Sender.deliver_of_serves hfits.checked h.serves h.reached message with
    ⟨hlarge, error, hdeliver⟩ | ⟨hroom, later, hdeliver, hserves, hsame⟩
  · have hlost : comesThrough arguments.capacity message = false :=
      decide_eq_false fun hcomes => Nat.not_le_of_lt hlarge hcomes.2
    have hpassed : passed arguments.capacity [message] = [] := by simp [passed, hlost]
    rw [hdeliver]
    refine ⟨h.queue, h.reached, h.serves, h.atRest, ?_, ?_⟩
    · rw [h.desk, passed_append, hpassed, List.append_nil]
    · rw [h.printing, due_append, due, due, hpassed, List.filter_nil, List.append_nil]
  · obtain ⟨settled, last, hrest, hlast, hplaces, hsettle⟩ := Reception.Pool.settle_of_atRest h.atRest hserves
      (forward arguments.routeCommands) session.desk
    rw [h.desk, hfits.capacity, after_forward (hanswers.after _) _ hroom, ← routerAfter_append,
      ← passed_append] at hsettle
    have hserver : session.server.settle (forward arguments.routeCommands) later session.desk
        = ({ session.server with pool := settled }, last, ⟨passed arguments.capacity [message],
          routerAfter arguments.routeCommands router (passed arguments.capacity (heard ++ [message]))⟩) := by
      rw [Reception.Server.settle, h.queue, h.desk]
      dsimp only
      rw [hsettle, h.queue]
    rw [hdeliver]
    dsimp only
    rw [hserver]
    refine ⟨h.queue, ?_, hlast, hrest, rfl, ?_⟩
    · show last.store.node true receiver.path = _
      rw [hplaces.store, hsame.store, h.reached]
    · show List.foldl _ session.printing (passed arguments.capacity [message]) = _
      rw [h.printing, due_append]
      rcases passed_singleton_cases arguments.capacity message with hnone | ⟨frame, hframe⟩
      · rw [hnone, due, due, hnone]
        simp
      · rw [hframe, List.foldl_cons, List.foldl_nil, print_printing hunfinished, ← hframe]
        rfl

end Listens

/-- The messages that a listener hears: all of them, or those up to the one with which enough frames are
printed. -/
structure Heard (arguments : ListenArguments) (messages heard : List Bytes) : Prop where
  isPrefix : heard <+: messages
  ended : heard = messages ∨ ∃ count, arguments.count = some count ∧ (due arguments heard).length = count
  soon : ∀ earlier, earlier <+: heard → earlier ≠ heard → ∀ count, arguments.count = some count →
    (due arguments earlier).length < count

namespace Heard

theorem nil : Heard arguments [] [] where
  isPrefix := List.prefix_rfl
  ended := .inl rfl
  soon := fun _ hearlier hne => absurd (List.prefix_nil.1 hearlier) hne

theorem length_due_le (h : Heard arguments messages heard) {count : Nat}
    (hcount : arguments.count = some count) : (due arguments heard).length ≤ count := by
  cases heard using List.reverseRecOn with
  | nil => exact Nat.zero_le _
  | append_singleton earlier last =>
    have hearlier := h.soon earlier (List.prefix_append _ _) (by simp) count hcount
    have hlast := length_due_singleton_le arguments last
    rw [due_append, List.length_append]
    omega

theorem enough (h : Heard arguments messages heard)
    (henough : Listen.enough arguments (due arguments heard).length = true) (message : Bytes) :
    Heard arguments (messages ++ [message]) heard where
  isPrefix := h.isPrefix.trans (List.prefix_append _ _)
  ended := by
    obtain ⟨count, hcount, hle⟩ := enough_eq_true_iff.1 henough
    exact .inr ⟨count, hcount, Nat.le_antisymm (h.length_due_le hcount) hle⟩
  soon := h.soon

theorem next (h : Heard arguments messages heard)
    (hunfinished : Listen.enough arguments (due arguments heard).length = false) (message : Bytes) :
    heard = messages ∧ Heard arguments (messages ++ [message]) (heard ++ [message]) := by
  have hless : ∀ count, arguments.count = some count → (due arguments heard).length < count := by
    intro count hcount
    by_contra hle
    rw [enough_eq_true_iff.2 ⟨count, hcount, Nat.le_of_not_lt hle⟩] at hunfinished
    cases hunfinished
  have hall : heard = messages := by
    rcases h.ended with hall | ⟨count, hcount, hlength⟩
    · exact hall
    · exact absurd hlength (Nat.ne_of_lt (hless count hcount))
  subst hall
  refine ⟨rfl, List.prefix_rfl, .inl rfl, fun earlier hearlier hne count hcount => ?_⟩
  have hbefore : earlier <+: heard := (List.prefix_concat_iff.1 hearlier).resolve_left hne
  obtain ⟨rest, rfl⟩ := hbefore
  have hsum := hless count hcount
  rw [due_append, List.length_append] at hsum
  exact Nat.lt_of_le_of_lt (Nat.le_add_right _ _) hsum

theorem eq_of_isPrefix {other : List Bytes} (h : Heard arguments messages heard)
    (hother : Heard arguments messages other) (hless : heard <+: other) : heard = other := by
  by_contra hne
  rcases h.ended with rfl | ⟨count, hcount, hlength⟩
  · exact hne (hless.eq_of_length_le hother.isPrefix.length_le)
  · exact absurd hlength (Nat.ne_of_lt (hother.soon heard hless hne count hcount))

theorem unique {other : List Bytes} (h : Heard arguments messages heard)
    (hother : Heard arguments messages other) : heard = other := by
  rcases List.prefix_or_prefix_of_prefix h.isPrefix hother.isPrefix with hless | hless
  · exact h.eq_of_isPrefix hother hless
  · exact (hother.eq_of_isPrefix h hless).symm

/-- The frames that are printed are the first ones that are asked for. -/
theorem due_eq (h : Heard arguments messages heard) :
    due arguments heard = match arguments.count with
      | none => due arguments messages
      | some count => (due arguments messages).take count := by
  cases hcount : arguments.count with
  | none =>
    rcases h.ended with rfl | ⟨count, hother, -⟩
    · rfl
    · cases hcount.symm.trans hother
  | some count =>
    rcases h.ended with rfl | ⟨other, hother, hlength⟩
    · exact (List.take_of_length_le (h.length_due_le hcount)).symm
    · obtain rfl := Option.some.inj (hcount.symm.trans hother)
      obtain ⟨rest, rfl⟩ := h.isPrefix
      rw [due_append, ← hlength]
      exact List.take_left.symm

end Heard

/-- A listener hears what arrives until enough frames are printed, and what arrives after that changes
nothing. -/
theorem Listens.receiveAll {receiver : Queue.Receiver} {session : Session}
    (h : Listens arguments format now router receiver [] session) (hfits : Fits arguments receiver)
    (hanswers : Answers arguments.routeCommands router) (messages : List Bytes) :
    ∃ heard, Heard arguments messages heard ∧
      Listens arguments format now router receiver heard
        (messages.foldl (Session.receive arguments format now) session) ∧
      messages.foldl (Session.receive arguments format now) session
        = heard.foldl (Session.receive arguments format now) session := by
  -- from the last message backwards, as whether it is heard depends on those before it
  induction messages using List.reverseRecOn with
  | nil => exact ⟨[], .nil, h, rfl⟩
  | append_singleton messages message ih =>
    obtain ⟨heard, hheard, hlistens, hsame⟩ := ih
    rw [List.foldl_append, List.foldl_cons, List.foldl_nil]
    cases hfinished : enough arguments (due arguments heard).length with
    | true =>
      have hdeaf : (messages.foldl (Session.receive arguments format now) session).receive arguments format now
          message = messages.foldl (Session.receive arguments format now) session := by
        rw [Session.receive, if_pos (by rw [hlistens.printing]; exact hfinished)]
      rw [hdeaf]
      exact ⟨heard, hheard.enough hfinished message, hlistens, hsame⟩
    | false =>
      obtain ⟨rfl, hnext⟩ := hheard.next hfinished message
      refine ⟨heard ++ [message], hnext, hlistens.receive hfits hanswers hfinished message, ?_⟩
      rw [List.foldl_append, List.foldl_cons, List.foldl_nil]

theorem listens_of_start {host started : Host} {listening : Reception.Server}
    (hstart : (server arguments).start host = (.ok (), started, listening))
    (hcapacity : arguments.capacity < 9223372036854775807)
    (hcount : ∀ count, arguments.count = some count → 1 ≤ count) (format : Format) (now : Nat)
    (router : Command.Router) :
    ∃ receiver, Fits arguments receiver ∧ Listens arguments format now router receiver []
      { host := started, server := listening, desk := { router } } := by
  rcases Reception.Server.start_cases hstart with
    ⟨-, hrefused, -⟩ | ⟨-, error, cause, hfailed, -⟩ | ⟨-, receiver, -, rfl, hbind⟩
  · cases hrefused
  · cases hfailed
  · obtain ⟨hreceiver, -, hreached, hserves⟩ := Queue.Receiver.of_bind hbind
    have hsize : receiver.capacity = arguments.capacity := hreceiver
    have hbuffer : receiver.hasBuffer = true := by
      rw [Queue.Receiver.hasBuffer, Queue.Receiver.bufferSize, hsize, decide_eq_true_iff,
        Queue.Receiver.largestBuffer]
      omega
    refine ⟨receiver, ⟨hsize, Queue.Receiver.checkSocketPath_of_bind hbind⟩,
      rfl, hreached, hserves, ⟨rfl, ?_, ?_⟩, ?_, ?_⟩
    · simp only [Reception.Server.started, ne_eq, List.replicate_eq_nil_iff]
      omega
    · intro phase hphase
      rw [List.eq_of_mem_replicate hphase, if_pos hbuffer]
      exact .inl rfl
    · cases hroute : arguments.routeCommands <;> rfl
    · have hnone : enough arguments 0 = false := by
        rw [Bool.eq_false_iff]
        intro henough
        obtain ⟨count, hgiven, hzero⟩ := enough_eq_true_iff.1 henough
        exact absurd (hcount count hgiven) (Nat.not_le_of_lt (Nat.lt_succ_of_le hzero))
      show _ = (⟨0, [], enough arguments 0⟩ : Printing)
      rw [hnone]

theorem run_of_start {host started : Host} {listening : Reception.Server}
    (hstart : (server arguments).start host = (.ok (), started, listening))
    (hcapacity : arguments.capacity < 9223372036854775807)
    (hcount : ∀ count, arguments.count = some count → 1 ≤ count)
    (hanswers : Answers arguments.routeCommands router) (format : Format) (now : Nat)
    (messages : List Bytes) :
    ∃ heard output later, Heard arguments messages heard ∧
      run host router arguments format now messages = (.ok output, later,
        routerAfter arguments.routeCommands router (passed arguments.capacity heard)) ∧
      run host router arguments format now messages = run host router arguments format now heard ∧
      output.stdout = lines arguments format now (due arguments heard) := by
  obtain ⟨receiver, hfits, hlistens⟩ := listens_of_start hstart hcapacity hcount format now router
  obtain ⟨heard, hheard, hlast, hsame⟩ := hlistens.receiveAll hfits hanswers messages
  obtain ⟨next, later, hstop⟩ := Reception.Server.stop_of_atRest hlast.queue hlast.atRest hlast.serves
    (forward arguments.routeCommands)
    (messages.foldl (Session.receive arguments format now)
      { host := started, server := listening, desk := { router } }).desk
  refine ⟨heard, ⟨lines arguments format now (due arguments heard),
    printTally format arguments.queue next.pool.tally⟩, later, hheard, ?_, ?_, rfl⟩
  · rw [run, hstart]
    dsimp only
    rw [hstop, hlast.desk, hlast.printing]
    rfl
  · rw [run, run, hstart]
    dsimp only
    rw [hsame]

theorem forward_accepted_iff {routeCommands : Bool} {desk : Desk}
    (hanswers : Answers routeCommands desk.router) (message : Bytes) :
    (forward routeCommands message desk).1 = .accepted ↔
      ∃ frame : Frame, Frame.decode message = .ok frame.view := by
  cases hframe : frame? message with
  | none =>
    rw [forward_of_none hframe]
    refine ⟨nofun, fun ⟨frame, hdecode⟩ => ?_⟩
    rw [frame?_eq_some_iff.2 hdecode] at hframe
    cases hframe
  | some frame =>
    rw [forward_of_frame hframe hanswers]
    exact ⟨fun _ => ⟨frame, frame?_eq_some_iff.1 hframe⟩, fun _ => rfl⟩

/-- A listener on a queue prints the first frames that are asked for, of those that come through, in the
order of their arrival, as many as it is to print or else all; with the last of them it is at its end, and
later messages change nothing. Each command that is text is routed once, whether it is printed or not, if
commands are to be routed, and nothing else is. A message is accepted and passed on exactly if it is a
frame. -/
theorem prints_first_frames_asked_for {host started : Host} {listening : Reception.Server}
    (hstart : (server arguments).start host = (.ok (), started, listening))
    (hcapacity : arguments.capacity < 9223372036854775807)
    (hcount : ∀ count, arguments.count = some count → 1 ≤ count)
    (hanswers : Answers arguments.routeCommands router) (format : Format) (now : Nat)
    (messages : List Bytes) :
    (∃ heard output later, Heard arguments messages heard ∧
      run host router arguments format now messages = (.ok output, later,
        if arguments.routeCommands then router.routeAll Command.Router.stepLimit
          ((passed arguments.capacity heard).filterMap command?) else router) ∧
      run host router arguments format now messages = run host router arguments format now heard ∧
      output.stdout = ((due arguments heard).map (printFrame format now arguments.queue)).flatten ∧
      due arguments heard = (match arguments.count with
        | none => due arguments messages
        | some count => (due arguments messages).take count) ∧
      (router.current.AnswersAtOnce →
        (router.routeAll Command.Router.stepLimit
          ((passed arguments.capacity heard).filterMap command?)).history = router.history ++
            ((passed arguments.capacity heard).filterMap command?).map fun command =>
              .called router.current command.1 command.2)) ∧
      ∀ (message : Bytes) (desk : Desk), Answers arguments.routeCommands desk.router →
        ((forward arguments.routeCommands message desk).1 = .accepted ↔
            ∃ frame : Frame, Frame.decode message = .ok frame.view) ∧
          ∀ frame : Frame, Frame.decode message = .ok frame.view →
            forward arguments.routeCommands message desk = (.accepted, ⟨desk.frames ++ [frame],
              routerAfter arguments.routeCommands desk.router [frame]⟩) := by
  constructor
  · obtain ⟨heard, output, later, hheard, hrun, hsame, hprinted⟩ :=
      run_of_start hstart hcapacity hcount hanswers format now messages
    refine ⟨heard, output, later, hheard, hrun, hsame, hprinted, hheard.due_eq, fun hatOnce => ?_⟩
    rw [Command.Router.routeAll_of_answersAtOnce hatOnce (by decide)]
  · intro message desk hanswered
    refine ⟨forward_accepted_iff hanswered message, fun frame hdecode => ?_⟩
    exact forward_of_frame (frame?_eq_some_iff.2 hdecode) hanswered

/-- A command, a message that is no frame and two log lines, of which the second comes too late. -/
theorem prints_first_of_two_log_lines :
    let arguments : ListenArguments := {
      queue := "/b", workers := 1, capacity := 60, kinds := some [.log], routeCommands := true, count := some 1 }
    let reload : Bytes := [0x41, 0x43, 1, 3, 0x61] ++ List.replicate 39 0 ++ [6, 0, 0, 0] ++ Text.utf8 "reload"
    let first : Bytes := [0x41, 0x43, 1, 0, 0x61] ++ List.replicate 39 0 ++ [1, 0, 0, 0, 0x62]
    let second : Bytes := [0x41, 0x43, 1, 0, 0x61] ++ List.replicate 39 0 ++ [1, 0, 0, 0, 0x63]
    (server arguments).start .isolated = (.ok (), (Reception.Scene.ofRootQueue 60).host,
        (Reception.Scene.ofRootQueue 60).server) ∧
      ∃ output later router, run .isolated {} arguments .raw 0 [reload, [7], first, second]
          = (.ok output, later, router) ∧
        output.stdout = [0x62] ∧ router.history = [.called .words "a" "reload"] := by
  intro arguments reload first second
  have hstart : (server arguments).start .isolated = (.ok (), (Reception.Scene.ofRootQueue 60).host,
      (Reception.Scene.ofRootQueue 60).server) := by cbv
  have hatOnce : (Command.Processor.words).AnswersAtOnce := Command.Processor.words_answersAtOnce
  have hanswers : Answers arguments.routeCommands {} := fun _ =>
    Command.Router.alwaysAnswers_of_answersAtOnce hatOnce (by decide)
  obtain ⟨⟨heard, output, later, hheard, hrun, -, hprinted, -, hhistory⟩, -⟩ :=
    prints_first_frames_asked_for hstart (by decide) (by rintro count ⟨⟩; decide) hanswers .raw 0
      [reload, [7], first, second]
  have hone : Heard arguments [reload] [reload] := (Heard.nil.next (by cbv) reload).2
  have htwo : Heard arguments [reload, [7]] [reload, [7]] := (hone.next (by cbv) [7]).2
  have hthree : Heard arguments [reload, [7], first] [reload, [7], first] := (htwo.next (by cbv) first).2
  obtain rfl := hheard.unique (hthree.enough (by cbv) second)
  refine ⟨hstart, output, later, _, hrun, ?_, (hhistory hatOnce).trans (by cbv)⟩
  rw [hprinted]
  cbv

/-- A frame that is too large for the queue is not printed, though it is a frame and all kinds are asked
for. -/
theorem oversized_frame_is_not_printed :
    let arguments : ListenArguments := { queue := "/b", workers := 1, capacity := 60 }
    let frame : Frame := ⟨"x", 1, .log, Text.utf8 "longer than it fits"⟩
    ∃ message output later router, frame.encode = .ok message ∧
      Frame.decode message = .ok frame.view ∧ wanted arguments.kinds frame = true ∧
      run .isolated {} arguments .pretty 0 [message] = (.ok output, later, router) ∧ output.stdout = [] ∧
      printFrame .pretty 0 arguments.queue frame ≠ [] := by
  intro arguments frame
  have hencode : frame.encode = .ok (frame.header ++ frame.payload) := rfl
  have hstart : (server arguments).start .isolated = (.ok (), (Reception.Scene.ofRootQueue 60).host,
      (Reception.Scene.ofRootQueue 60).server) := by cbv
  obtain ⟨heard, output, later, hheard, hrun, -, hprinted⟩ := run_of_start hstart (by decide)
    (by rintro count ⟨⟩) (by rintro ⟨⟩) .pretty 0 [frame.header ++ frame.payload]
  have hnone : due arguments [frame.header ++ frame.payload] = [] := by cbv
  have hempty : due arguments heard = [] := by rw [hheard.due_eq]; exact hnone
  refine ⟨_, output, later, _, hencode, Frame.decode_of_encode hencode, rfl, hrun, ?_, by decide +kernel⟩
  rw [hprinted, hempty]
  rfl

end Courier.Cli.Listen
