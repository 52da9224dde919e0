/-! # Shown records

The shown form of a value is the name of its type with its fields in braces, `Name \x7b a: 1, b: 2 \x7d`,
or with its parts in parentheses, `Name(1)`.
-/

namespace Courier.Text

/-- A value shown with its fields, in their order. -/
def record (name : String) (fields : List (String × String)) : String :=
  let shown := fields.map fun (field, value) => field ++ ": " ++ value
  name ++ " \x7b " ++ ", ".intercalate shown ++ " \x7d"

/-- A value shown without its fields. -/
def closedRecord (name : String) : String :=
  name ++ " \x7b .. \x7d"

/-- A value shown around another one. -/
def wrapped (name value : String) : String :=
  name ++ "(" ++ value ++ ")"

/-- A value that may be missing. -/
def optional : Option String → String
  | some value => wrapped "Some" value
  | none => "None"

end Courier.Text
