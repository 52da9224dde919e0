import Courier.Cli.Arguments
import Courier.Cli.Exit
import Courier.Queue.Sender
import Courier.Reception.Server

/-! # Listening from the command line

`listen` prints the frames that arrive at a queue until enough are printed or it is interrupted. Frames
of other kinds than those asked for are passed over and do not count.
-/

namespace Courier.Cli.Listen

/-- What the workers pass on: the frames not yet printed, and the router for commands. -/
structure Desk where
  frames : List Frame := []
  router : Command.Router := {}

/-- Hands the text of a command to the router; a command that is no text is not routed. -/
def routed (router : Command.Router) (frame : Frame) : Reception.Verdict × Command.Router :=
  match Text.ofUtf8? frame.payload with
  | none => (.accepted, router)
  | some text =>
    let (outcome, router) := router.route frame.provider text
    (.ofOutcome outcome, router)

/-- Passes a message on if it is a frame; commands are routed first if that is asked for. -/
def forward (routeCommands : Bool) : Reception.Handler Desk := fun message desk =>
  match (Frame.decode message).map Frame.View.toFrame? with
  | .error _ | .ok none => (.rejected, desk)
  | .ok (some frame) =>
    if routeCommands && frame.kind = .command then
      match routed desk.router frame with
      | (.accepted, router) => (.accepted, { frames := desk.frames ++ [frame], router })
      | (verdict, router) => (verdict, { desk with router })
    else (.accepted, { desk with frames := desk.frames ++ [frame] })

/-- What has been printed, and whether it is enough. -/
structure Printing where
  printed : Nat := 0
  output : Bytes := []
  finished : Bool := false

/-- Whether a frame is of a kind that is to be printed. -/
def wanted (kinds : Option (List Frame.Kind)) (frame : Frame) : Bool :=
  match kinds with
  | none => true
  | some kinds => kinds.contains frame.kind

/-- Prints one frame if it is wanted and not enough are printed. -/
def print (arguments : ListenArguments) (format : Format) (now : Nat) (printing : Printing)
    (frame : Frame) : Printing :=
  if printing.finished || !wanted arguments.kinds frame then printing
  else
    let printed := printing.printed + 1
    { printed
      output := printing.output ++ printFrame format now arguments.queue frame
      finished := match arguments.count with
        | some count => decide (count ≤ printed)
        | none => false }

/-- A listening program: its server, what the workers have passed on, and what is printed. -/
structure Session where
  host : Host
  server : Reception.Server
  desk : Desk
  printing : Printing := {}

namespace Session

/-- One message arrives, is handled, and is printed if it is to be. -/
def receive (arguments : ListenArguments) (format : Format) (now : Nat) (session : Session)
    (message : Bytes) : Session :=
  if session.printing.finished then session
  else
    match session.server.path? with
    | none => session
    | some path =>
      match Queue.Sender.deliver session.host path message with
      | .error _ => session
      | .ok host =>
        let (server, host, desk) :=
          session.server.settle (forward arguments.routeCommands) host session.desk
        { host, server
          desk := { desk with frames := [] }
          printing := desk.frames.foldl (print arguments format now) session.printing }

end Session

def server (arguments : ListenArguments) : Reception.Server where
  address := arguments.queue
  access := arguments.access
  config := { workers := arguments.workers, capacity := arguments.capacity }

/-- Listens while the given messages arrive, and is interrupted after them. -/
def run (host : Host) (router : Command.Router) (arguments : ListenArguments) (format : Format)
    (now : Nat) (messages : List Bytes) : Except Failure Output × Host × Command.Router :=
  match (server arguments).start host with
  | (.error error, host, _) => (.error (Exit.ofReception "listen failed" error), host, router)
  | (.ok (), host, server) =>
    let session := messages.foldl (Session.receive arguments format now)
      { host, server, desk := { router } }
    let (server, host, desk) :=
      session.server.stop (forward arguments.routeCommands) session.host session.desk
    (.ok
      { stdout := session.printing.output
        stderr := printTally format arguments.queue server.pool.tally }, host, desk.router)

end Courier.Cli.Listen
