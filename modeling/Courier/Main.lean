import Courier.Cli.Program
import Courier.Frame.Stream

/-! # The outermost layer

The files that a command line names are taken from the system into a host, the program runs there, and
what it added to a file and printed goes back to the system. The messages that arrive while it listens
are the frames on standard input.
-/

namespace Courier.Outer

/-- The bytes of a file of the system, if it can be read. -/
def fileBytes? (path : String) : IO (Option Bytes) := do
  match ← (IO.FS.readBinFile path).toBaseIO with
  | .ok content => return some content.data.toList
  | .error _ => return none

/-- Whether the system has something at a path. -/
def isThere (path : String) : IO Bool := do
  match ← (IO.FS.Handle.mk path .read).toBaseIO with
  | .ok _ => return true
  | .error _ => return false

/-- The path of the directory that holds an entry. -/
def parentPath (path : String) : String :=
  let names := (Path.names path).dropLast
  if names.isEmpty then (if Path.isAbsolute path then "/" else ".")
  else Store.pathOf (Path.isAbsolute path) names

/-- A store with the file of a path, or at least with the directories above it, as the system has them. -/
def load (store : Store) (path : String) : IO Store := do
  if !(← isThere (parentPath path)) then return store
  let store := (store.makeParents path).2
  match ← fileBytes? path with
  | some bytes => return (store.replaceContent path bytes).2
  | none => return store

/-- Appends to a file of the system what a run has added to it. -/
def save (before after : Store) (path : String) : IO Unit := do
  match after.contentAt path with
  | .error _ => return
  | .ok bytes =>
    let size := ((before.contentAt path).toOption.getD []).length
    let handle ← IO.FS.Handle.mk path .append
    handle.write ⟨(bytes.drop size).toArray⟩

def write (stream : IO.FS.Stream) (bytes : Bytes) : IO Unit := do
  stream.write ⟨bytes.toArray⟩
  stream.flush

/-- The frames on standard input, as the messages that bring them. -/
def arriving : IO (List Bytes) := do
  let input ← fileBytes? "/dev/stdin"
  let drained := Frame.drain Frame.largestPayload (input.getD [])
  return drained.frames.filterMap fun frame => frame.encode.toOption

end Courier.Outer

open Courier in
/-- Runs the program on the words of the command line. -/
def main (words : List String) : IO UInt32 := do
  let port ← IO.getEnv "AGENTCARRIER_PORT"
  let queues ← IO.getEnv "AGENTCARRIER_QUEUE_DIR"
  let invocation := (Cli.Invocation.parse port words).toOption
  let payload := invocation.bind (·.payloadPath?)
  let target := invocation.bind (·.targetPath?)
  let mut store := Store.initial
  for path in payload.toList ++ target.toList do
    store ← Outer.load store path
  let messages ← if (invocation.map (·.listens)).getD false then Outer.arriving else pure []
  let around : Cli.Surroundings :=
    { host := { Host.isolated with store, queueDirectory := queues }
      clock := UInt64.ofNat (← IO.monoNanosNow)
      arriving := messages }
  let (ending, after) := Cli.run around port words
  for path in target.toList do
    Outer.save store after.host.store path
  Outer.write (← IO.getStdout) ending.output.stdout
  Outer.write (← IO.getStderr) ending.output.stderr
  return UInt32.ofNat ending.exit
