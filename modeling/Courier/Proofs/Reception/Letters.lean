import Courier.Proofs.Command.Routing
import Courier.Proofs.Frame.RoundTrip
import Courier.Reception.Handler

/-! # Letters

A letter is what a carrier can be asked to send. Its frame comes back out of its wire form as it was, so
the handler enters it where letters of its kind go: `deliver_wire` for one letter, `enterAll_eq` for all.
-/

namespace Courier.Reception

inductive Letter where
  | log (peer text : String)
  | yaml (peer text : String)
  | segment (peer : String) (answerId : UInt64) (data : Bytes)
  | command (peer text : String)

namespace Letter

def frame : Letter → Frame
  | log peer text => ⟨peer, 0, .log, Text.utf8 text⟩
  | yaml peer text => ⟨peer, 0, .yaml, Text.utf8 text⟩
  | segment peer answerId data => ⟨peer, answerId, .segment, data⟩
  | command peer text => ⟨peer, 0, .command, Text.utf8 text⟩

def log? : Letter → Option String
  | log _ text => some text
  | _ => none

def yaml? : Letter → Option String
  | yaml _ text => some text
  | _ => none

/-- The measurements in a letter; their answer id is the time they were taken at, in nanoseconds. -/
def segment? : Letter → Option Segment
  | segment peer answerId data => some ⟨peer, answerId, ⟨answerId.toNat⟩, data⟩
  | _ => none

def command? : Letter → Option (String × String)
  | command peer text => some (peer, text)
  | _ => none

def enter (limit : Nat) (desk : Desk) : Letter → Desk
  | log _ text => { desk with inbox := desk.inbox.addLog text }
  | yaml _ text => { desk with inbox := desk.inbox.addYaml text }
  | segment peer answerId data =>
    { desk with inbox := desk.inbox.addSegment ⟨peer, answerId, ⟨answerId.toNat⟩, data⟩ }
  | command peer text => { desk with router := (desk.router.routeWithin limit peer text).2 }

/-- What frames say. The answer id of a text is of no account. -/
inductive Conveys : Frame → Letter → Prop
  | log (peer text : String) (answerId : UInt64) :
      Conveys ⟨peer, answerId, .log, Text.utf8 text⟩ (log peer text)
  | yaml (peer text : String) (answerId : UInt64) :
      Conveys ⟨peer, answerId, .yaml, Text.utf8 text⟩ (yaml peer text)
  | segment (peer : String) (answerId : UInt64) (data : Bytes) :
      Conveys ⟨peer, answerId, .segment, data⟩ (segment peer answerId data)
  | command (peer text : String) (answerId : UInt64) :
      Conveys ⟨peer, answerId, .command, Text.utf8 text⟩ (command peer text)

/-- The letter that a frame conveys, if its payload is what its kind asks for. -/
def ofFrame? (frame : Frame) : Option Letter :=
  match frame.kind with
  | .log => (Text.ofUtf8? frame.payload).map (log frame.provider)
  | .yaml => (Text.ofUtf8? frame.payload).map (yaml frame.provider)
  | .segment => some (segment frame.provider frame.answerId frame.payload)
  | .command => (Text.ofUtf8? frame.payload).map (command frame.provider)

/-- The letter in a message, if it is the whole of it. -/
def ofMessage? (message : Bytes) : Option Letter :=
  match Frame.decode message with
  | .error _ => none
  | .ok view => view.toFrame?.bind ofFrame?

theorem conveys_frame (letter : Letter) : Conveys letter.frame letter := by
  cases letter <;> constructor

theorem ofFrame?_eq_some_iff {frame : Frame} {letter : Letter} :
    ofFrame? frame = some letter ↔ Conveys frame letter := by
  constructor
  · intro h
    obtain ⟨peer, answerId, kind, payload⟩ := frame
    cases kind with
    | log | yaml | command =>
      obtain ⟨text, htext, rfl⟩ := Option.map_eq_some_iff.1 h
      obtain rfl := Text.utf8_of_ofUtf8? htext
      constructor
    | segment =>
      cases h
      constructor
  · intro h
    cases h with
    | segment => rfl
    | log | yaml | command => simp [ofFrame?, Text.ofUtf8?_utf8]

/-- A frame conveys a letter when it is a segment or text. -/
theorem exists_conveys_iff {frame : Frame} :
    (∃ letter, Conveys frame letter) ↔
      frame.kind = .segment ∨ ∃ text, Text.utf8 text = frame.payload := by
  constructor
  · rintro ⟨letter, h⟩
    cases h with
    | segment => exact .inl rfl
    | log _ text | yaml _ text | command _ text => exact .inr ⟨text, rfl⟩
  · obtain ⟨peer, answerId, kind, payload⟩ := frame
    intro h
    cases kind with
    | segment => exact ⟨_, .segment peer answerId payload⟩
    | log | yaml | command =>
      obtain ⟨text, rfl⟩ := h.resolve_left nofun
      exact ⟨_, by constructor⟩

theorem ofMessage?_eq_some_iff {message : Bytes} {letter : Letter} :
    ofMessage? message = some letter ↔
      ∃ frame, Frame.decode message = .ok frame.view ∧ Conveys frame letter := by
  rw [ofMessage?]
  cases hdecode : Frame.decode message with
  | error error => simp
  | ok view =>
    simp only [Option.bind_eq_some_iff, ofFrame?_eq_some_iff, Frame.View.toFrame?_eq_some_iff,
      Except.ok.injEq]

theorem text_view (peer text : String) (answerId : UInt64) (kind : Frame.Kind) :
    (Frame.view ⟨peer, answerId, kind, Text.utf8 text⟩).text = .ok text := by
  have hread : Text.readUtf8 (Text.utf8 text) = .ok text := Text.readUtf8_eq_ok_iff.2 rfl
  rw [Frame.View.text, Frame.view, hread]
  rfl

/-- Only segments are not delivered as texts. -/
theorem deliver_text {peer text : String} {answerId : UInt64} {kind : Frame.Kind} {message : Bytes}
    (hdecode : Frame.decode message = .ok (Frame.view ⟨peer, answerId, kind, Text.utf8 text⟩))
    (hkind : kind ≠ .segment) (limit : Nat) (desk : Desk) :
    deliverWithin limit message desk = deliverText limit kind peer text desk := by
  rw [deliverWithin, hdecode]
  cases kind with
  | segment => exact absurd rfl hkind
  | log | yaml | command =>
    have htext := text_view peer text answerId
    simp only [Frame.view] at htext ⊢
    rw [htext]

/-- A message with a letter in it is accepted and the letter entered, if its command is answered. -/
theorem deliver_of_some {message : Bytes} {letter : Letter} (h : ofMessage? message = some letter)
    {limit : Nat} {desk : Desk} (hanswers : ∀ command ∈ letter.command?, ∃ accepted,
      (desk.router.routeWithin limit command.1 command.2).1 = .answered accepted) :
    deliverWithin limit message desk = (.accepted, letter.enter limit desk) := by
  obtain ⟨frame, hdecode, hconveys⟩ := ofMessage?_eq_some_iff.1 h
  cases hconveys with
  | log | yaml =>
    rw [deliver_text hdecode nofun]
    rfl
  | segment =>
    rw [deliverWithin, hdecode]
    rfl
  | command peer text =>
    obtain ⟨accepted, hanswered⟩ := hanswers (peer, text) rfl
    rw [deliver_text hdecode nofun, deliverText]
    dsimp only at hanswered ⊢
    rw [hanswered]
    rfl

theorem deliver_of_none {message : Bytes} (h : ofMessage? message = none) (limit : Nat) (desk : Desk) :
    deliverWithin limit message desk = (.rejected, desk) := by
  rw [deliverWithin]
  cases hdecode : Frame.decode message with
  | error error => rfl
  | ok view =>
    obtain ⟨peer, answerId, kind, payload⟩ := view
    cases kind with
    | none => rfl
    | some kind =>
      have hframe (letter : Letter) : ¬ Conveys ⟨peer, answerId, kind, payload⟩ letter := fun hconveys => by
        rw [ofMessage?_eq_some_iff.2 ⟨_, hdecode, hconveys⟩] at h
        cases h
      have hpayload := fun hpayload => not_exists.2 hframe (exists_conveys_iff.2 hpayload)
      cases kind with
      | segment => exact absurd (.inl rfl) hpayload
      | log | yaml | command =>
        cases htext : Text.readUtf8 payload with
        | ok text => exact absurd (.inr ⟨text, Text.readUtf8_eq_ok_iff.1 htext⟩) hpayload
        | error fault =>
          simp only [Frame.View.text, htext]
          rfl

/-- A letter that arrives whole is accepted and entered, if its command is answered. -/
theorem deliver_wire {letter : Letter} {wire : Bytes} (hwire : letter.frame.encode = .ok wire)
    {limit : Nat} {desk : Desk} (hanswers : ∀ peer text, ∃ accepted,
      (desk.router.routeWithin limit peer text).1 = .answered accepted) :
    deliverWithin limit wire desk = (.accepted, letter.enter limit desk) :=
  deliver_of_some (ofMessage?_eq_some_iff.2 ⟨letter.frame, Frame.decode_of_encode hwire, letter.conveys_frame⟩)
    fun command _ => hanswers command.1 command.2

def enterAll (limit : Nat) (desk : Desk) (letters : List Letter) : Desk :=
  letters.foldl (enter limit) desk

theorem enterAll_append (limit : Nat) (desk : Desk) (letters : List Letter) (letter : Letter) :
    enterAll limit desk (letters ++ [letter]) = letter.enter limit (enterAll limit desk letters) := by
  rw [enterAll, List.foldl_append]
  rfl

/-- Texts are kept in order, segments are counted and the last one is kept, and each command is routed as
the ones before have left the router. -/
theorem enterAll_eq (limit : Nat) (desk : Desk) (letters : List Letter) :
    enterAll limit desk letters =
      { inbox := {
          lastSegment := (letters.filterMap segment?).getLast?.or desk.inbox.lastSegment
          segments := desk.inbox.segments + (letters.filterMap segment?).length
          logs := desk.inbox.logs ++ letters.filterMap log?
          yamls := desk.inbox.yamls ++ letters.filterMap yaml? }
        router := desk.router.routeAll limit (letters.filterMap command?) } := by
  induction letters generalizing desk with
  | nil => simp [enterAll, Command.Router.routeAll]
  | cons letter letters ih =>
    have hcons : enterAll limit desk (letter :: letters) = enterAll limit (letter.enter limit desk) letters :=
      rfl
    rw [hcons, ih]
    cases letter with
    | log peer text =>
      simp [enter, Inbox.addLog, List.filterMap_cons, log?, yaml?, segment?, command?]
    | yaml peer text =>
      simp [enter, Inbox.addYaml, List.filterMap_cons, log?, yaml?, segment?, command?]
    | segment peer answerId data =>
      simp [enter, Inbox.addSegment, List.filterMap_cons, log?, yaml?, segment?, command?,
        List.getLast?_cons]
      omega
    | command peer text =>
      simp [enter, List.filterMap_cons, log?, yaml?, segment?, command?, Command.Router.routeAll_cons]

end Letter

end Courier.Reception
