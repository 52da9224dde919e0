import Courier.Text.Pieces

/-! # Paths

A path is a text of names with slashes between them. It starts at the root if its first character is a
slash, and at the working directory otherwise. Slashes after the last name ask for a directory.
-/

namespace Courier.Path

def isAbsolute (path : String) : Bool :=
  path.toList.head? == some '/'

def endsWithSlash (path : String) : Bool :=
  path.toList.getLast? == some '/'

/-- What a walk along a path passes, in order: names, and dots that stay where they are or lead back. -/
def steps (path : String) : List String :=
  (Text.cut '/' path).filter (· != "")

/-- The names of a path in order; single dots mean nothing between them and are left out. -/
def names (path : String) : List String :=
  (steps path).filter (· != ".")

end Courier.Path
