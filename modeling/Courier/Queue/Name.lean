import Courier.Store.Path
import Courier.Transport.Error

/-! # Names of queues

A queue is addressed by an absolute path or by a plain name of letters, digits, dots, underscores and
hyphens. A plain name stands for a socket in the directory of queues, so it can neither leave the
directory nor meet another name there.
-/

namespace Courier.Queue

/-- The characters of plain names. -/
def isNameChar (c : Char) : Bool :=
  c.isAlphanum || c == '.' || c == '_' || c == '-'

def isPlainName (name : String) : Bool :=
  name != "" && name != "." && name != ".." && name.toList.all isNameChar

/-- The directory of queues where none is chosen. -/
def defaultDirectory : String := "/tmp"

/-- The path of an entry in a directory. -/
def entryPath (directory entry : String) : String :=
  if directory == "" || directory.toList.getLast? == some '/' then directory ++ entry
  else directory ++ "/" ++ entry

/-- The path of the socket of a queue. -/
def resolveName (directory : Option String) (address : String) : Except Transport.Error String :=
  if Path.isAbsolute address then .ok address
  else if isPlainName address then
    .ok (entryPath (directory.getD defaultDirectory) (address ++ ".mq"))
  else
    .error (.invalidAddress "localqueue" address "queue names may only contain [A-Za-z0-9._-]")

end Courier.Queue
