/-! # Access levels

Who may send to a queue. A level stands for permission bits on the socket of the queue.
-/

namespace Courier

inductive Access where
  /-- Every local user. -/
  | anyone
  /-- The owner and the group. -/
  | standard
  /-- The owner alone. -/
  | admin
deriving DecidableEq, Repr

namespace Access

def all : List Access := [anyone, standard, admin]

/-- The permission bits. -/
def mode : Access → Nat
  | anyone => 0x1B6
  | standard => 0x1B0
  | admin => 0x180

def word : Access → String
  | anyone => "none"
  | standard => "standard"
  | admin => "admin"

/-- The name of the alternative itself. -/
def label : Access → String
  | anyone => "None"
  | standard => "Standard"
  | admin => "Admin"

def ofWord? (word : String) : Option Access :=
  all.find? fun level => level.word == word

theorem ofWord?_eq_some_iff {word : String} {level : Access} :
    ofWord? word = some level ↔ word = level.word := by
  constructor
  · intro h
    have := List.find?_some h
    simp only [beq_iff_eq] at this
    exact this.symm
  · rintro rfl
    cases level <;> decide

/-- The level of a text, or the complaint about it. -/
def parse (word : String) : Except String Access :=
  match ofWord? word with
  | some level => .ok level
  | none => .error ("unknown security level '" ++ word ++ "'")

/-- The level of a stored text, or the complaint about it. -/
def parseStored (word : String) : Except String Access :=
  match ofWord? word with
  | some level => .ok level
  | none => .error ("unknown variant `" ++ word ++ "`, expected one of `none`, `standard`, `admin`")

end Access

end Courier
