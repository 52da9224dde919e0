import Courier.Cli.Listen
import Courier.Cli.Send
import Courier.Cli.Version

/-! # The program

Carries out one command in a host and says how the program ends.
-/

namespace Courier.Cli

/-- How the program ends. -/
structure Ending where
  exit : Nat
  output : Output
deriving DecidableEq

/-- What commands find around them. -/
structure Surroundings where
  host : Host
  router : Command.Router := {}
  /-- A time that never goes back, in nanoseconds. -/
  clock : UInt64 := 0
  /-- The seconds of the calendar. -/
  now : Nat := 0
  /-- The messages that arrive while the program listens. -/
  arriving : List Bytes := []

/-- The format of a program whose output goes to another program. -/
def defaultFormat : Format := .json

/-- Carries out a command. -/
def perform (around : Surroundings) (command : Command) (format : Format) :
    Except Failure Output × Surroundings :=
  match command with
  | .send arguments =>
    let (outcome, host) := Send.run around.clock around.host arguments format
    (outcome, { around with host })
  | .listen arguments =>
    let (outcome, host, router) :=
      Listen.run around.host around.router arguments format around.now around.arriving
    (outcome, { around with host, router })
  | .version isExtended => (.ok (Version.run isExtended), around)

namespace UsageFault

/-- Asking for help or for the version is no failure. -/
def exit : UsageFault → Nat
  | displayHelp | displayVersion => Exit.success
  | _ => 2

/-- What is printed on the way out, the texts of help and of complaints left to the outer layer. -/
def output : UsageFault → Output
  | displayVersion => { stdout := line Version.short }
  | _ => {}

end UsageFault

/-- How a failure is shown at the end. -/
def Failure.line (failure : Failure) : String := "error: " ++ failure.message

/-- Runs the program on the words after its name. -/
def run (around : Surroundings) (environmentPort : Option String) (words : List String) :
    Ending × Surroundings :=
  match Invocation.parse environmentPort words with
  | .error fault => (⟨fault.exit, fault.output⟩, around)
  | .ok invocation =>
    match perform around invocation.command (invocation.format.getD defaultFormat) with
    | (.ok output, around) => (⟨Exit.success, output⟩, around)
    | (.error failure, around) =>
      (⟨failure.code, { stderr := Text.utf8 (failure.line ++ "\n") }⟩, around)

end Courier.Cli
