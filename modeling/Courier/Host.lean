import Courier.Access
import Courier.Frame.Writer
import Courier.Network.Destination
import Courier.Store.Basic

/-! # The host

A host holds everything that destinations share: the file store, the sockets behind the entries of the
store, and what connections to other hosts come to. Operations on destinations take a host and give it
back changed.
-/

namespace Courier

/-- A socket of this host. -/
structure Endpoint where
  /-- Stream sockets take no messages. -/
  isStream : Bool := false
  access : Access := .standard
  /-- Whether somebody still receives from it. -/
  isLive : Bool := true
  /-- Whether its receiver was woken: what is queued is still received, and nothing can be added. -/
  isWoken : Bool := false
  queue : List Bytes := []
deriving DecidableEq

/-- What the next connection to another host comes to: a refusal, or what its writes and flushes do. -/
structure Attempt where
  refusal : Option IoError := none
  /-- A refusal to hosts with addresses of eight groups. -/
  groupsRefusal : Option IoError := none
  /-- The fault of looking up a name. -/
  lookupFault : Option IoError := none
  writes : List Frame.WriteEvent := []
  flushes : List (Option IoError) := []
deriving DecidableEq

structure Host where
  store : Store
  endpoints : Table Nat Endpoint
  nextEndpoint : Nat
  /-- The directory of queues, if one is chosen. -/
  queueDirectory : Option String
  /-- The size past which no file can grow. -/
  sizeLimit : Option Nat
  /-- Every connection made to another host, with what was written to it. -/
  connections : List Frame.Drain
  /-- What the next connection comes to. -/
  outlook : Attempt

namespace Host

/-- A host without a network, with an empty working directory and its queues in a directory `q`. -/
def isolated : Host where
  store := .initial
  endpoints := .empty
  nextEndpoint := 0
  queueDirectory := some "q"
  sizeLimit := none
  connections := []
  outlook :=
    { refusal := some (.os 101)
      groupsRefusal := some (.os 99)
      lookupFault := some (Network.Destination.lookupFault "Temporary failure in name resolution") }

def setEndpoint (host : Host) (id : Nat) (endpoint : Endpoint) : Host :=
  { host with endpoints := host.endpoints.insert id endpoint }

/-- Whether somebody receives from a socket. -/
def isLive (host : Host) (id : Nat) : Bool :=
  ((host.endpoints.get? id).map (·.isLive)).getD false

/-- Longest path of a socket, in bytes, plus one. -/
def socketPathLimit : Nat := 108

/-- The texts that can be the path of a socket. -/
def checkSocketPath (path : String) : Except IoError Unit :=
  if path.toList.contains '\x00' then
    .error (.described .invalidInput "paths must not contain interior null bytes")
  else if socketPathLimit ≤ path.utf8ByteSize then
    .error (.described .invalidInput "path must be shorter than SUN_LEN")
  else .ok ()

/-- Makes a socket at a free path. -/
def makeSocket (host : Host) (path : String) (endpoint : Endpoint) : Except IoError (Nat × Host) :=
  match checkSocketPath path with
  | .error error => .error error
  | .ok () =>
    match host.store.vacancy false path with
    | .error error => .error (if error = .os 17 then .os 98 else error)
    | .ok place =>
      let id := host.nextEndpoint
      .ok (id, { host.setEndpoint id endpoint with
        store := host.store.setNode place (.socket id)
        nextEndpoint := id + 1 })

/-- Makes a socket if its path is free. -/
def addSocket (host : Host) (path : String) (endpoint : Endpoint) : Host :=
  match host.makeSocket path endpoint with
  | .ok (_, host) => host
  | .error _ => host

/-- What asking the socket at a path for its receiver gives: whether there is one. -/
def probe (host : Host) (id : Nat) : Except IoError Bool :=
  match host.endpoints.get? id with
  | none => .ok false
  | some endpoint =>
    if !endpoint.isLive then .ok false
    else if endpoint.isStream then .error (.os 91)
    else .ok true

end Host

end Courier
