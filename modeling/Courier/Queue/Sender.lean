import Courier.Host
import Courier.Queue.Name

/-! # Sending to a queue

A sender only knows the path of its queue. Each message goes to the receiver that stands behind the path
at that moment.
-/

namespace Courier.Queue

structure Sender where
  name : String
  path : String
deriving DecidableEq

namespace Sender

/-- The largest message that the system has room for. -/
def messageLimit : Nat := 4263616

def shown (sender : Sender) : String :=
  Text.record "LocalQueueSender"
    [("name", Text.quote sender.name), ("path", Text.quotePath sender.path)]

/-- A sender to a queue, whether or not there is a receiver. -/
def «open» (host : Host) (name : String) : Except Transport.Error Sender :=
  match resolveName host.queueDirectory name with
  | .error error => .error error
  | .ok path => .ok { name, path }

/-- Adds a message to the queue at a path. -/
def deliver (host : Host) (path : String) (message : Bytes) : Except IoError Host :=
  match Host.checkSocketPath path with
  | .error error => .error error
  | .ok () =>
    if messageLimit < message.length then .error (.os 105)
    else
      match host.store.node true path with
      | .error error => .error error
      | .ok (.socket id) =>
        match host.endpoints.get? id with
        | none => .error (.os 111)
        | some endpoint =>
          if !endpoint.isLive then .error (.os 111)
          else if endpoint.isStream then .error (.os 91)
          else if endpoint.isWoken then .error (.os 32)
          else .ok (host.setEndpoint id { endpoint with queue := endpoint.queue ++ [message] })
      | .ok _ => .error (.os 111)

def send (host : Host) (sender : Sender) (message : Bytes) : Except Transport.Error Unit × Host :=
  match deliver host sender.path message with
  | .error error => (.error (.send sender.path error), host)
  | .ok host => (.ok (), host)

end Sender

end Courier.Queue
