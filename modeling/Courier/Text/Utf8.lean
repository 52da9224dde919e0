import Courier.Bytes

/-! # UTF-8

`utf8` writes a text as bytes and `ofUtf8?` reads it back: `ofUtf8?_eq_some_iff` says that reading
accepts exactly what writing produces. `fault` names the first place where bytes stop being UTF-8,
either as an invalid sequence or as a sequence cut off by the end.
-/

namespace Courier.Text

/-- The UTF-8 form of a text. -/
def utf8 (text : String) : Bytes :=
  text.toByteArray.data.toList

/-- The text whose UTF-8 form the bytes are. -/
def ofUtf8? (bytes : Bytes) : Option String :=
  if h : (ByteArray.mk bytes.toArray).IsValidUTF8 then some (String.ofByteArray _ h) else none

theorem ofUtf8?_utf8 (text : String) : ofUtf8? (utf8 text) = some text := by
  simp [ofUtf8?, utf8, text.isValidUTF8]

theorem utf8_of_ofUtf8? {bytes : Bytes} {text : String} (h : ofUtf8? bytes = some text) :
    utf8 text = bytes := by
  unfold ofUtf8? at h
  split at h
  · obtain rfl := Option.some.inj h
    simp [utf8]
  · cases h

theorem ofUtf8?_eq_some_iff {bytes : Bytes} {text : String} :
    ofUtf8? bytes = some text ↔ utf8 text = bytes :=
  ⟨utf8_of_ofUtf8?, fun h => h ▸ ofUtf8?_utf8 text⟩

theorem utf8_injective {left right : String} (h : utf8 left = utf8 right) : left = right :=
  Option.some.inj (by rw [← ofUtf8?_utf8 left, h, ofUtf8?_utf8])

@[simp]
theorem utf8_append (left right : String) : utf8 (left ++ right) = utf8 left ++ utf8 right := by
  simp [utf8]

theorem length_utf8 (text : String) : (utf8 text).length = text.utf8ByteSize := by
  simp [utf8]

/-- The first place where bytes stop being UTF-8. -/
inductive Utf8Fault where
  /-- The `size` bytes at `index` begin no character. -/
  | invalid (size index : Nat)
  /-- The bytes end inside the character that starts at `index`. -/
  | incomplete (index : Nat)
deriving DecidableEq

namespace Utf8Fault

def message : Utf8Fault → String
  | .invalid size index => s!"invalid utf-8 sequence of {size} bytes from index {index}"
  | .incomplete index => s!"incomplete utf-8 byte sequence from index {index}"

end Utf8Fault

/-- The number of bytes of the character that a first byte announces. -/
def announced (first : UInt8) : Option Nat :=
  if first < 0x80 then some 1
  else if 0xC2 ≤ first ∧ first ≤ 0xDF then some 2
  else if 0xE0 ≤ first ∧ first ≤ 0xEF then some 3
  else if 0xF0 ≤ first ∧ first ≤ 0xF4 then some 4
  else none

/-- The second bytes that may follow a first byte: overlong forms, surrogates and numbers past the
last character are left out. -/
def maySecond (first second : UInt8) : Bool :=
  if first = 0xE0 then 0xA0 ≤ second && second ≤ 0xBF
  else if first = 0xED then 0x80 ≤ second && second ≤ 0x9F
  else if first = 0xF0 then 0x90 ≤ second && second ≤ 0xBF
  else if first = 0xF4 then 0x80 ≤ second && second ≤ 0x8F
  else 0x80 ≤ second && second ≤ 0xBF

/-- The continuation bytes after the second one. -/
def mayFollow (byte : UInt8) : Bool :=
  0x80 ≤ byte && byte ≤ 0xBF

/-- What one character's bytes at `index` look like: its size, or the fault in it. -/
def character (index : Nat) (first : UInt8) (rest : Bytes) : Except Utf8Fault Nat :=
  match announced first, rest with
  | none, _ => .error (.invalid 1 index)
  | some 1, _ => .ok 1
  | some _, [] => .error (.incomplete index)
  | some size, second :: rest =>
    if !maySecond first second then .error (.invalid 1 index)
    else if size = 2 then .ok 2
    else match rest with
      | [] => .error (.incomplete index)
      | third :: rest =>
        if !mayFollow third then .error (.invalid 2 index)
        else if size = 3 then .ok 3
        else match rest with
          | [] => .error (.incomplete index)
          | fourth :: _ => if mayFollow fourth then .ok 4 else .error (.invalid 3 index)

/-- The first fault at or after `index`; `skip` bytes still belong to the character before. -/
def faultFrom (index skip : Nat) : Bytes → Option Utf8Fault
  | [] => none
  | first :: rest =>
    match skip with
    | skip + 1 => faultFrom (index + 1) skip rest
    | 0 =>
      match character index first rest with
      | .ok size => faultFrom (index + 1) (size - 1) rest
      | .error fault => some fault

/-- The first place where the bytes stop being UTF-8, if there is one. -/
def fault? (bytes : Bytes) : Option Utf8Fault :=
  faultFrom 0 0 bytes

/-- Reads bytes as text, or says where they stop being text. -/
def readUtf8 (bytes : Bytes) : Except Utf8Fault String :=
  match ofUtf8? bytes with
  | some text => .ok text
  | none => .error ((fault? bytes).getD (.incomplete bytes.length))

theorem readUtf8_eq_ok_iff {bytes : Bytes} {text : String} :
    readUtf8 bytes = .ok text ↔ utf8 text = bytes := by
  rw [← ofUtf8?_eq_some_iff, readUtf8]
  cases ofUtf8? bytes <;> simp

end Courier.Text
