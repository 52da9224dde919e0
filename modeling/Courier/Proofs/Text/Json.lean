import Courier.Text.Json
import Courier.Transport.Stored
import Mathlib.Tactic.SplitIfs

/-! # Texts in JSON are read back

A reader for texts in JSON that knows all their escapes, those that are never written included. Whatever text
is written, with whatever behind it, the reader gives that text and leaves what is behind it
(`readChars_flatMap_escapeChar`), so JSON is a format that keeps texts.
-/

namespace Courier.Text.Json

def hexValue? (c : Char) : Option Nat :=
  if '0' ≤ c ∧ c ≤ '9' then some (c.toNat - '0'.toNat)
  else if 'a' ≤ c ∧ c ≤ 'f' then some (c.toNat - 'a'.toNat + 10)
  else if 'A' ≤ c ∧ c ≤ 'F' then some (c.toNat - 'A'.toNat + 10)
  else none

def unit? (first second third fourth : Char) : Option Nat :=
  match hexValue? first, hexValue? second, hexValue? third, hexValue? fourth with
  | some first, some second, some third, some fourth =>
    some (((first * 16 + second) * 16 + third) * 16 + fourth)
  | _, _, _, _ => none

def shortEscape? : Char → Option Char
  | '"' => some '"'
  | '\\' => some '\\'
  | '/' => some '/'
  | 'b' => some '\x08'
  | 'f' => some '\x0c'
  | 'n' => some '\n'
  | 'r' => some '\r'
  | 't' => some '\t'
  | _ => none

def isHighHalf (unit : Nat) : Bool := decide (0xD800 ≤ unit ∧ unit < 0xDC00)

def isLowHalf (unit : Nat) : Bool := decide (0xDC00 ≤ unit ∧ unit < 0xE000)

def joinHalves (high low : Nat) : Char :=
  Char.ofNat (0x10000 + (high - 0xD800) * 0x400 + (low - 0xDC00))

def before (c : Char) (read? : Option (List Char × List Char)) : Option (List Char × List Char) :=
  read?.map fun (chars, left) => (c :: chars, left)

/-- Reads characters up to the quote that ends their text, and gives what is left behind it. -/
def readChars : List Char → Option (List Char × List Char)
  | [] => none
  | c :: rest =>
    if c = '"' then some ([], rest)
    else if c = '\\' then
      match rest with
      | 'u' :: first :: second :: third :: fourth :: rest =>
        match unit? first second third fourth with
        | none => none
        | some unit =>
          if isHighHalf unit then
            match rest with
            | '\\' :: 'u' :: first :: second :: third :: fourth :: rest =>
              match unit? first second third fourth with
              | none => none
              | some low => if isLowHalf low then before (joinHalves unit low) (readChars rest) else none
            | _ => none
          else if isLowHalf unit then none
          else before (Char.ofNat unit) (readChars rest)
      | letter :: rest =>
        match shortEscape? letter with
        | none => none
        | some c => before c (readChars rest)
      | [] => none
    else if c.toNat < 0x20 then none
    else before c (readChars rest)

def isSpace (c : Char) : Bool := c = ' ' || c = '\t' || c = '\n' || c = '\r'

def readText? (json : String) : Option String :=
  match json.toList.dropWhile isSpace with
  | '"' :: rest =>
    match readChars rest with
    | some (chars, left) => if left.all isSpace then some (String.ofList chars) else none
    | none => none
  | _ => none

theorem readChars_quote (rest : List Char) : readChars ('"' :: rest) = some ([], rest) := by
  rw [readChars.eq_def]
  rfl

theorem readChars_shortEscape {letter c : Char} (h : shortEscape? letter = some c) (rest : List Char) :
    readChars ('\\' :: letter :: rest) = before c (readChars rest) := by
  have hletter : letter ≠ 'u' := by
    rintro rfl
    cases h
  rw [readChars]
  · simp [h]
  · exact fun _ _ _ _ _ hunit => absurd hunit hletter

theorem unit?_hex2 {n : Nat} (h : n < 0x20) :
    unit? '0' '0' (Nat.digitChar (n / 16)) (Nat.digitChar (n % 16)) = some n := by
  revert n
  decide

theorem readChars_unit {n : Nat} (h : n < 0x20) (rest : List Char) :
    readChars (['\\', 'u', '0', '0'] ++ hex2 n ++ rest) = before (Char.ofNat n) (readChars rest) := by
  have hhigh : isHighHalf n = false := decide_eq_false (by omega)
  have hlow : isLowHalf n = false := decide_eq_false (by omega)
  simp only [hex2, List.cons_append, List.nil_append]
  rw [readChars]
  simp [unit?_hex2 h, hhigh, hlow]

/-- A character is read from the way it is written. -/
theorem readChars_escapeChar (c : Char) (rest : List Char) :
    readChars (escapeChar c ++ rest) = before c (readChars rest) := by
  rw [escapeChar]
  split_ifs with hquote hbackslash hb ht hn hf hr hcontrol
  · exact readChars_shortEscape (by rw [hquote]; rfl) rest
  · exact readChars_shortEscape (by rw [hbackslash]; rfl) rest
  · exact readChars_shortEscape (by rw [hb]; rfl) rest
  · exact readChars_shortEscape (by rw [ht]; rfl) rest
  · exact readChars_shortEscape (by rw [hn]; rfl) rest
  · exact readChars_shortEscape (by rw [hf]; rfl) rest
  · exact readChars_shortEscape (by rw [hr]; rfl) rest
  · rw [readChars_unit hcontrol, Char.ofNat_toNat]
  · rw [List.singleton_append, readChars.eq_def]
    simp only [if_neg hquote, if_neg hbackslash, if_neg hcontrol]

theorem readChars_flatMap_escapeChar (chars rest : List Char) :
    readChars (chars.flatMap escapeChar ++ '"' :: rest) = some (chars, rest) := by
  induction chars with
  | nil => exact readChars_quote rest
  | cons c chars ih =>
    rw [List.flatMap_cons, List.append_assoc, readChars_escapeChar, ih]
    rfl

theorem readText?_quote (text : String) : readText? (quote text) = some text := by
  have hread := readChars_flatMap_escapeChar text.toList []
  rw [readText?, quote, String.toList_ofList, List.cons_append, List.dropWhile_cons_of_neg (by decide)]
  simp [hread]

def format : Format String where
  write := quote
  read? := readText?
  read?_write := readText?_quote

end Courier.Text.Json
