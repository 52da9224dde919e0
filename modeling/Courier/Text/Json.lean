import Courier.Text.Quoted

/-! # JSON

Objects of texts and numbers, written on one line. Within a text the quote, the backslash and the
control characters are escaped and all other characters stand for themselves, so a written text never
holds a line break.
-/

namespace Courier.Text.Json

/-- How a character stands within a text. -/
def escapeChar (c : Char) : List Char :=
  if c = '"' then ['\\', '"']
  else if c = '\\' then ['\\', '\\']
  else if c = '\x08' then ['\\', 'b']
  else if c = '\t' then ['\\', 't']
  else if c = '\n' then ['\\', 'n']
  else if c = '\x0c' then ['\\', 'f']
  else if c = '\r' then ['\\', 'r']
  else if c.toNat < 0x20 then ['\\', 'u', '0', '0'] ++ hex2 c.toNat
  else [c]

def quote (text : String) : String :=
  String.ofList ('"' :: text.toList.flatMap escapeChar ++ ['"'])

/-- What the fields of an object hold. -/
inductive Scalar where
  | text (text : String)
  | number (number : Nat)
  | numbers (numbers : List Nat)

def Scalar.render : Scalar → String
  | .text value => quote value
  | .number value => toString value
  | .numbers values => "[" ++ ",".intercalate (values.map toString) ++ "]"

/-- An object with its fields in the given order. -/
def renderObject (fields : List (String × Scalar)) : String :=
  "\x7b" ++ ",".intercalate (fields.map fun (name, value) => quote name ++ ":" ++ value.render) ++ "\x7d"

end Courier.Text.Json
