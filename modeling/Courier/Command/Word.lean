import Courier.Text.Blank

/-! # Command words

The commands that are understood without a processor of one's own. Blanks around a word and the case of
its ASCII letters do not matter.
-/

namespace Courier.Command

inductive Word where
  /-- Read the configuration again. -/
  | reload
  /-- A sign of life is asked for. -/
  | passTrue
  /-- The program is about to be removed. -/
  | uninstallAlert
deriving DecidableEq, Repr

namespace Word

def all : List Word := [reload, passTrue, uninstallAlert]

def text : Word → String
  | reload => "reload"
  | passTrue => "passtrue"
  | uninstallAlert => "uninstallalert"

/-- The name of the alternative itself. -/
def label : Word → String
  | reload => "Reload"
  | passTrue => "PassTrue"
  | uninstallAlert => "UninstallAlert"

def ofText? (text : String) : Option Word :=
  all.find? fun word => word.text == text

/-- The form in which commands are compared. -/
def normalize (command : String) : String :=
  Text.lowerAscii (Text.trim command)

/-- The word of a command, or the complaint about it. -/
def parse (command : String) : Except String Word :=
  match ofText? (normalize command) with
  | some word => .ok word
  | none => .error ("unknown agent command '" ++ normalize command ++ "'")

end Word

/-- The policy of accepting the words that are understood, whoever sends them. -/
def accepts (_peer command : String) : Bool :=
  (Word.parse command).isOk

end Courier.Command
