import Courier.Proofs.Command.Calling
import Courier.Proofs.Reception.Letters
import Mathlib.Data.List.DropRight

/-! # One effect for each message

A `Journal` follows a desk through messages and resets, with a receipt for every message: what it was judged
and what the desk was before and after. A receipt is sound if the message was accepted for what it says alone,
and changed the desk by the `Effect` of its letter or, rejected, not at all. `Kept` is what holds of a journal
after any events.
-/

namespace Courier.Reception

namespace Inbox

def addAll (inbox : Inbox) (letters : List Letter) : Inbox where
  lastSegment := (letters.filterMap Letter.segment?).getLast?.or inbox.lastSegment
  segments := inbox.segments + (letters.filterMap Letter.segment?).length
  logs := inbox.logs ++ letters.filterMap Letter.log?
  yamls := inbox.yamls ++ letters.filterMap Letter.yaml?

theorem addAll_nil (inbox : Inbox) : inbox.addAll [] = inbox := by
  simp [addAll]

end Inbox

/-- What a letter changes: one thing, and the rest of the desk is as it was. -/
inductive Effect (before : Desk) : Letter → Desk → Prop
  | log (peer text : String) : Effect before (.log peer text)
      { before with inbox := { before.inbox with logs := before.inbox.logs ++ [text] } }
  | yaml (peer text : String) : Effect before (.yaml peer text)
      { before with inbox := { before.inbox with yamls := before.inbox.yamls ++ [text] } }
  | segment (peer : String) (answerId : UInt64) (data : Bytes) :
      Effect before (.segment peer answerId data) { before with inbox := { before.inbox with
        segments := before.inbox.segments + 1
        lastSegment := some ⟨peer, answerId, ⟨answerId.toNat⟩, data⟩ } }
  /-- The processor of the moment is called once, and does with the router what its own program says. -/
  | command {peer text : String} {steps : Nat} {accepted : Bool} {router : Command.Router}
      (hcalled : (Command.Thread.ofProgram (before.router.current.respond peer text)).run steps
        (before.router.call peer text).2 = (.answered accepted, router)) :
      Effect before (.command peer text) { before with router }

theorem effect_enter {limit : Nat} {desk : Desk} {letter : Letter}
    (hanswers : ∀ command ∈ letter.command?, ∃ accepted,
      (desk.router.routeWithin limit command.1 command.2).1 = .answered accepted) :
    Effect desk letter (letter.enter limit desk) := by
  cases letter with
  | log peer text => exact .log peer text
  | yaml peer text => exact .yaml peer text
  | segment peer answerId data => exact .segment peer answerId data
  | command peer text =>
    obtain ⟨accepted, hanswered⟩ := hanswers (peer, text) rfl
    obtain ⟨steps, hcalled⟩ := Command.Router.routeWithin_of_answered (Prod.ext hanswered rfl)
    exact .command hcalled

namespace Letter

variable {limit : Nat} {desk : Desk} {base : Inbox} {letters : List Letter}

theorem inbox_enter (h : desk.inbox = base.addAll letters) (letter : Letter) :
    (letter.enter limit desk).inbox = base.addAll (letters ++ [letter]) := by
  cases letter <;>
    simp [enter, h, Inbox.addLog, Inbox.addYaml, Inbox.addSegment, Inbox.addAll, log?, yaml?, segment?,
      Nat.add_assoc]

theorem router_enter (limit : Nat) (desk : Desk) (letter : Letter) :
    (letter.enter limit desk).router = desk.router.routeAll limit letter.command?.toList := by
  cases letter <;> rfl

end Letter

structure Receipt where
  message : Bytes
  verdict : Verdict
  before : Desk
  after : Desk

structure Journal where
  desk : Desk
  receipts : List Receipt := []

/-- A message is accepted for what it says alone, whatever a processor answers to it, and has one effect then
and none otherwise. -/
structure Receipt.Sound (receipt : Receipt) : Prop where
  accepted : receipt.verdict = .accepted ↔ ∃ frame : Frame, Frame.decode receipt.message = .ok frame.view ∧
    (frame.kind = .segment ∨ ∃ text, Text.utf8 text = frame.payload)
  effect : receipt.verdict = .accepted → ∃ letter, Letter.ofMessage? receipt.message = some letter ∧
    Effect receipt.before letter receipt.after
  rejected : receipt.verdict ≠ .accepted → receipt.verdict = .rejected ∧ receipt.after = receipt.before

/-- The messages that are accepted are those with a letter in them. -/
theorem isSome_ofMessage?_iff {message : Bytes} : (Letter.ofMessage? message).isSome ↔
    ∃ frame : Frame, Frame.decode message = .ok frame.view ∧
      (frame.kind = .segment ∨ ∃ text, Text.utf8 text = frame.payload) := by
  simp only [Option.isSome_iff_exists, Letter.ofMessage?_eq_some_iff, ← Letter.exists_conveys_iff]
  exact exists_comm.trans (exists_congr fun _ => exists_and_left)

namespace Journal

inductive Event where
  | arrival (message : Bytes)
  /-- All that was received is forgotten. -/
  | reset
deriving DecidableEq

def Event.message? : Event → Option Bytes
  | .arrival message => some message
  | .reset => none

def act (limit : Nat) (journal : Journal) : Event → Journal
  | .arrival message =>
    let (verdict, after) := deliverWithin limit message journal.desk
    { desk := after, receipts := journal.receipts ++ [⟨message, verdict, journal.desk, after⟩] }
  | .reset => { journal with desk := { journal.desk with inbox := journal.desk.inbox.reset } }

def run (limit : Nat) (desk : Desk) (events : List Event) : Journal :=
  events.foldl (act limit) { desk }

def letters (events : List Event) : List Letter :=
  (events.filterMap Event.message?).filterMap Letter.ofMessage?

def commands (events : List Event) : List (String × String) :=
  (letters events).filterMap Letter.command?

def sinceReset (events : List Event) : List Event := events.rtakeWhile (· ≠ .reset)

/-- What is left of an inbox by the last reset among some events. -/
def base (inbox : Inbox) (events : List Event) : Inbox := if .reset ∈ events then {} else inbox

structure Kept (limit : Nat) (start : Desk) (events : List Event) (journal : Journal) : Prop where
  messages : journal.receipts.map Receipt.message = events.filterMap Event.message?
  receipts : ∀ receipt ∈ journal.receipts, receipt.Sound
  inbox : journal.desk.inbox = (base start.inbox events).addAll (letters (sinceReset events))
  router : journal.desk.router = start.router.routeAll limit (commands events)

variable {limit : Nat} {start : Desk} {events : List Event} {journal : Journal} {message : Bytes}

theorem letters_concat (events : List Event) (message : Bytes) : letters (events ++ [.arrival message])
    = letters events ++ (Letter.ofMessage? message).toList := by
  cases h : Letter.ofMessage? message <;> simp [letters, Event.message?, h]

theorem commands_concat (events : List Event) (message : Bytes) : commands (events ++ [.arrival message])
    = commands events ++ ((Letter.ofMessage? message).bind Letter.command?).toList := by
  cases h : Letter.ofMessage? message with
  | none => simp [commands, letters_concat, h]
  | some letter => cases hcommand : letter.command? <;> simp [commands, letters_concat, h, hcommand]

theorem commands_reset (events : List Event) : commands (events ++ [.reset]) = commands events := by
  simp [commands, letters, Event.message?]

theorem commands_mono {earlier : List Event} (h : earlier <+: events) :
    commands earlier <+: commands events :=
  ((h.filterMap _).filterMap _).filterMap _

namespace Kept

theorem reset (h : Kept limit start events journal) :
    Kept limit start (events ++ [.reset]) (journal.act limit .reset) where
  messages := by
    rw [List.filterMap_append]
    exact h.messages.trans (List.append_nil _).symm
  receipts := h.receipts
  inbox := by
    simp [act, Inbox.reset, base, sinceReset, letters, Inbox.addAll]
  router := by
    rw [commands_reset]
    exact h.router

theorem record (h : Kept limit start events journal) {verdict : Verdict} {after : Desk}
    (hdeliver : deliverWithin limit message journal.desk = (verdict, after))
    (hsound : Receipt.Sound ⟨message, verdict, journal.desk, after⟩)
    (hinbox : after.inbox = (base start.inbox events).addAll
      (letters (sinceReset events) ++ (Letter.ofMessage? message).toList))
    (hrouter : after.router = journal.desk.router.routeAll limit
      ((Letter.ofMessage? message).bind Letter.command?).toList) :
    Kept limit start (events ++ [.arrival message]) (journal.act limit (.arrival message)) := by
  have hact : journal.act limit (.arrival message)
      = ⟨after, journal.receipts ++ [⟨message, verdict, journal.desk, after⟩]⟩ := by
    rw [act, hdeliver]
  have hbase : base start.inbox (events ++ [.arrival message]) = base start.inbox events := by
    simp [base]
  have hsince : sinceReset (events ++ [.arrival message]) = sinceReset events ++ [.arrival message] :=
    List.rtakeWhile_concat_pos _ _ _ (by simp)
  rw [hact]
  refine ⟨?_, fun receipt hmem => ?_, ?_, ?_⟩
  · rw [List.map_append, List.filterMap_append, h.messages]
    rfl
  · rcases List.mem_append.1 hmem with hmem | hmem
    · exact h.receipts receipt hmem
    · obtain rfl := List.mem_singleton.1 hmem
      exact hsound
  · rw [hbase, hsince, letters_concat]
    exact hinbox
  · rw [commands_concat, Command.Router.routeAll_append, ← h.router]
    exact hrouter

theorem arrival (h : Kept limit start events journal)
    (hanswers : start.router.AnswersAll limit (commands (events ++ [.arrival message]))) :
    Kept limit start (events ++ [.arrival message]) (journal.act limit (.arrival message)) := by
  cases hletter : Letter.ofMessage? message with
  | none =>
    have hinadmissible := isSome_ofMessage?_iff.not.1 (Option.not_isSome_iff_eq_none.2 hletter)
    refine h.record (Letter.deliver_of_none hletter limit journal.desk)
      ⟨iff_of_false nofun hinadmissible, nofun, fun _ => ⟨rfl, rfl⟩⟩ ?_ ?_
    · rw [hletter, Option.toList_none, List.append_nil]
      exact h.inbox
    · rw [hletter]
      rfl
  | some letter =>
    have hadmissible := isSome_ofMessage?_iff.1 (Option.isSome_iff_exists.2 ⟨letter, hletter⟩)
    have hanswered : ∀ command ∈ letter.command?, ∃ accepted,
        (journal.desk.router.routeWithin limit command.1 command.2).1 = .answered accepted := by
      intro command hcommand
      rw [h.router]
      refine hanswers (commands events) command ?_
      rw [commands_concat, hletter, Option.bind_some, Option.mem_def.1 hcommand]
      exact List.prefix_rfl
    refine h.record (Letter.deliver_of_some hletter hanswered)
      ⟨iff_of_true rfl hadmissible, fun _ => ⟨letter, hletter, effect_enter hanswered⟩,
        fun hverdict => absurd rfl hverdict⟩ ?_ ?_
    · rw [hletter]
      exact letter.inbox_enter h.inbox
    · rw [hletter]
      exact letter.router_enter limit journal.desk

theorem act (h : Kept limit start events journal) (event : Event)
    (hanswers : start.router.AnswersAll limit (commands (events ++ [event]))) :
    Kept limit start (events ++ [event]) (journal.act limit event) := by
  cases event with
  | arrival message => exact h.arrival hanswers
  | reset => exact h.reset

theorem run (start : Desk) (events : List Event)
    (hanswers : start.router.AnswersAll limit (commands events)) :
    Kept limit start events (Journal.run limit start events) := by
  induction events using List.reverseRecOn with
  | nil => exact ⟨rfl, fun _ h => absurd h List.not_mem_nil, (Inbox.addAll_nil _).symm, rfl⟩
  | append_singleton events event ih =>
    rw [Journal.run, List.foldl_concat]
    exact (ih (hanswers.of_longer (commands_mono (List.prefix_append _ _)))).act event hanswers

end Kept

/-- Whatever messages are handled, with resets between them: a message is accepted if it is a whole frame that
is a segment or text, and rejected otherwise; it has the one effect of its letter if it is accepted, and none if
it is rejected. So the inbox holds what the letters since the last reset say and nothing else, and the commands
are routed one after another and nothing else is. -/
theorem each_message_has_its_effect (start : Desk) (events : List Event)
    (hanswers : start.router.AnswersAll limit (commands events)) :
    let journal := run limit start events
    journal.receipts.map Receipt.message = events.filterMap Event.message? ∧
      (∀ receipt ∈ journal.receipts, receipt.Sound) ∧
      journal.desk.inbox = (base start.inbox events).addAll (letters (sinceReset events)) ∧
      journal.desk.router = start.router.routeAll limit (commands events) ∧
      ∀ message letter, Letter.ofMessage? message = some letter ↔
        ∃ frame : Frame, Frame.decode message = .ok frame.view ∧ Letter.Conveys frame letter := by
  intro journal
  have h := Kept.run start events hanswers
  exact ⟨h.messages, h.receipts, h.inbox, h.router, fun _ _ => Letter.ofMessage?_eq_some_iff⟩

/-- A processor that would not survive any other command installs the one that rejects the next. -/
theorem two_commands_and_a_reset :
    let strict : Command.Processor := .custom "strict" fun _ command =>
      if command = "swap" then .install .words (.answer false) else .panic command
    let start : Desk := { inbox := { logs := ["old"] }, router := { current := strict } }
    let wire (frame : Frame) : Bytes := frame.header ++ frame.payload
    let command : Bytes := wire ⟨"c", 3, .command, Text.utf8 "swap"⟩
    let damaged : Bytes := wire ⟨"x", 0, .log, [0xff, 0xfe]⟩
    let events : List Event := [.arrival (wire ⟨"y", 0, .yaml, Text.utf8 "lost"⟩), .arrival command, .reset,
      .arrival damaged, .arrival (wire ⟨"a", 11, .segment, [0xff]⟩), .arrival [],
      .arrival (wire ⟨"c", 0, .command, Text.utf8 "nope"⟩), .arrival (wire ⟨"y", 7, .yaml, Text.utf8 "k: v"⟩)]
    let journal := run 10 start events
    commands events = [("c", "swap"), ("c", "nope")] ∧
      start.router.AnswersAll 10 (commands events) ∧
      journal.receipts.map Receipt.verdict
        = [.accepted, .accepted, .rejected, .accepted, .rejected, .accepted, .accepted] ∧
      (∀ receipt ∈ journal.receipts, receipt.message = damaged → receipt.after = receipt.before) ∧
      journal.desk.inbox
        = { lastSegment := some ⟨"a", 11, ⟨11⟩, [0xff]⟩, segments := 1, logs := [], yamls := ["k: v"] } ∧
      journal.desk.router.history
        = [.called strict "c" "swap", .replaced .words strict, .called .words "c" "nope"] := by
  intro strict start wire command damaged events journal
  have hcommands : commands events = [("c", "swap"), ("c", "nope")] := by decide +kernel
  have hanswers : start.router.AnswersAll 10 (commands events) := by
    rw [hcommands]
    exact Command.Router.answersAll_cons ⟨false, rfl⟩
      (Command.Router.answersAll_cons ⟨false, rfl⟩ Command.Router.answersAll_nil)
  obtain ⟨-, hsound, hinbox, hrouter, -⟩ := each_message_has_its_effect start events hanswers
  have hdamaged : Letter.ofMessage? damaged = none := by decide +kernel
  refine ⟨hcommands, hanswers, by decide +kernel, fun receipt hmem hmessage => ?_, hinbox.trans (by decide +kernel), ?_⟩
  · refine ((hsound receipt hmem).rejected fun haccepted => ?_).2
    obtain ⟨letter, hletter, -⟩ := (hsound receipt hmem).effect haccepted
    rw [hmessage, hdamaged] at hletter
    cases hletter
  · rw [hrouter, hcommands]
    rfl

end Journal

end Courier.Reception
