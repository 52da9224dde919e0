import Courier.Command.Thread
import Courier.Frame.Wire
import Courier.Reception.Inbox

/-! # Handling messages

A handler judges one message and changes the state it keeps. `deliver` is the handler that puts log
lines, configurations and segments into the inbox and hands commands to the router.
-/

namespace Courier.Reception

inductive Verdict where
  | accepted
  | rejected
  | panicked (message : String)
deriving DecidableEq

/-- The verdict on a command that was routed: whatever the answer is, the command was delivered, but a
processor that panics does not return. -/
def Verdict.ofOutcome : Command.Outcome → Verdict
  | .answered _ => .accepted
  | .panicked message => .panicked message
  | .exhausted => .panicked "stack overflow"

/-- How a message is judged, and what that does to the state. -/
abbrev Handler (σ : Type) := Bytes → σ → Verdict × σ

/-- What delivered messages change. -/
structure Desk where
  inbox : Inbox := {}
  router : Command.Router := {}

/-- Puts a text where texts of its kind go. A command takes so many steps at most. -/
def deliverText (limit : Nat) (kind : Frame.Kind) (peer text : String) (desk : Desk) : Verdict × Desk :=
  match kind with
  | .log => (.accepted, { desk with inbox := desk.inbox.addLog text })
  | .yaml => (.accepted, { desk with inbox := desk.inbox.addYaml text })
  | .segment => (.accepted, desk)
  | .command =>
    let (outcome, router) := desk.router.routeWithin limit peer text
    (.ofOutcome outcome, { desk with router })

/-- Delivers a message that is a frame of some kind; all else is rejected without a trace. -/
def deliverWithin (limit : Nat) : Handler Desk := fun message desk =>
  match Frame.decode message with
  | .error _ => (.rejected, desk)
  | .ok view =>
    match view.kind with
    | none => (.rejected, desk)
    | some .segment =>
      (.accepted, { desk with inbox := desk.inbox.addSegment (Segment.ofView view) })
    | some kind =>
      match view.text with
      | .error _ => (.rejected, desk)
      | .ok text => deliverText limit kind view.provider text desk

/-- The handler of a server. -/
def deliver : Handler Desk := deliverWithin Command.Router.stepLimit

end Courier.Reception
