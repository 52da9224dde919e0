import Courier.Bytes
import Courier.Text.Printable

/-! # Quoted text and bytes

`quote` shows a text between double quotes with an escape for each character that could not be read on a
page. `quotePath` does the same for paths, and `quoteBytes` for bytes, of which only printable ASCII is
kept.
-/

namespace Courier.Text

/-- A number in hexadecimal digits, lower case. -/
def hex (n : Nat) : List Char :=
  Nat.toDigits 16 n

/-- A number below 256 in two hexadecimal digits. -/
def hex2 (n : Nat) : List Char :=
  [Nat.digitChar (n / 16), Nat.digitChar (n % 16)]

def quoteChar (c : Char) : List Char :=
  if c = '\x00' then ['\\', '0']
  else if c = '\t' then ['\\', 't']
  else if c = '\r' then ['\\', 'r']
  else if c = '\n' then ['\\', 'n']
  else if c = '"' then ['\\', '"']
  else if c = '\\' then ['\\', '\\']
  else if isPrintable c then [c]
  else ['\\', 'u', '\x7b'] ++ hex c.toNat ++ ['\x7d']

def quote (text : String) : String :=
  String.ofList ('"' :: text.toList.flatMap quoteChar ++ ['"'])

/-- A path in quotes, where a single quote has an escape as well. -/
def quotePath (path : String) : String :=
  let quoted := path.toList.flatMap fun c => if c = '\x27' then ['\\', c] else quoteChar c
  String.ofList ('"' :: quoted ++ ['"'])

def quoteByte (byte : UInt8) : List Char :=
  if byte = 10 then ['\\', 'n']
  else if byte = 13 then ['\\', 'r']
  else if byte = 9 then ['\\', 't']
  else if byte = 0 then ['\\', '0']
  else if byte = 34 then ['\\', '"']
  else if byte = 92 then ['\\', '\\']
  else if 0x20 ≤ byte && byte < 0x7F then [Char.ofNat byte.toNat]
  else ['\\', 'x'] ++ hex2 byte.toNat

def quoteBytes (bytes : Bytes) : String :=
  String.ofList ('b' :: '"' :: bytes.flatMap quoteByte ++ ['"'])

end Courier.Text
