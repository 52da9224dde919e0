import Courier.IoError
import Courier.Network.Address
import Courier.Text.Pieces

/-! # Destinations

What the host of an address stands for: an address of four bytes, an address of eight groups of sixteen
bits, or a name that has to be looked up. `Destination.ofAddress` reads it; a host that is none of them
is unknown from the start.
-/

namespace Courier.Network

inductive Destination where
  | ofBytes (number : Nat)
  /-- Eight groups, perhaps within the scope of one link. -/
  | ofGroups (groups : List Nat) (scope : Nat)
  | ofName (name : String)
deriving DecidableEq

namespace Destination

/-- The value of a digit, in bases up to sixteen. -/
def digitValue? (c : Char) : Option Nat :=
  if '0' ≤ c ∧ c ≤ '9' then some (c.toNat - '0'.toNat)
  else if 'a' ≤ c ∧ c ≤ 'f' then some (c.toNat - 'a'.toNat + 10)
  else if 'A' ≤ c ∧ c ≤ 'F' then some (c.toNat - 'A'.toNat + 10)
  else none

/-- The number that digits of a base make. -/
def readBase (base : Nat) (digits : List Char) : Option Nat :=
  digits.foldlM
    (fun value c => ((digitValue? c).filter (· < base)).map fun digit => value * base + digit) 0

/-- A part of an address of four bytes: hexadecimal after `0x`, octal after `0`, decimal otherwise. -/
def readPart : List Char → Option Nat
  | [] => none
  | '0' :: 'x' :: digit :: digits => readBase 16 (digit :: digits)
  | '0' :: 'X' :: digit :: digits => readBase 16 (digit :: digits)
  | '0' :: digits => readBase 8 digits
  | digits => readBase 10 digits

/-- One more than the largest number of some bytes. -/
def byteRange : Nat → Nat
  | 0 => 1
  | count + 1 => 256 * byteRange count

/-- The number of the parts for some bytes: one byte each, and the last part fills what is left. -/
def joinParts : Nat → List Nat → Option Nat
  | _, [] => none
  | count, [last] => if last < byteRange count then some last else none
  | 0, _ => none
  | count + 1, part :: rest =>
    if part < 256 then (joinParts count rest).map (part * byteRange count + ·) else none

/-- The parts make a number of the bytes that they are for. -/
theorem lt_of_joinParts {count number : Nat} {parts : List Nat}
    (h : joinParts count parts = some number) : number < byteRange count := by
  induction count, parts using joinParts.induct generalizing number with
  | case1 => simp [joinParts] at h
  | case2 count last hlt =>
    rw [joinParts, if_pos hlt] at h
    simpa [← Option.some.inj h] using hlt
  | case3 count last hge =>
    rw [joinParts, if_neg hge] at h
    exact absurd h (by simp)
  | case4 => simp [joinParts] at h
  | case5 count part rest hne hlt ih =>
    rw [joinParts, if_pos hlt, Option.map_eq_some_iff] at h
    · obtain ⟨later, hlater, rfl⟩ := h
      have hbound := ih hlater
      have hpart : part * byteRange count + byteRange count ≤ 256 * byteRange count := by
        rw [← Nat.succ_mul]
        exact Nat.mul_le_mul_right _ hlt
      rw [byteRange]
      omega
    · exact hne
  | case6 count part rest hne hge =>
    rw [joinParts, if_neg hge] at h
    · exact absurd h (by simp)
    · exact hne

/-- An address of four bytes. -/
def readBytes (text : String) : Option Nat :=
  ((Text.pieces '.' text.toList).mapM readPart).bind (joinParts 4)

/-- A group of up to four hexadecimal digits. -/
def readGroup (digits : List Char) : Option Nat :=
  if digits.isEmpty || 4 < digits.length then none else readBase 16 digits

/-- A byte in decimal, without a zero in front. -/
def readByte (digits : List Char) : Option Nat :=
  if digits.isEmpty || (digits.head? = some '0' && 1 < digits.length) then none
  else (readBase 10 digits).filter (· < 256)

/-- Two groups that are written as four bytes. -/
def readDotted (text : List Char) : Option (List Nat) :=
  match (Text.pieces '.' text).mapM readByte with
  | some [first, second, third, fourth] => some [first * 256 + second, third * 256 + fourth]
  | _ => none

/-- The groups of the texts between colons. Only the last ones of an address may be written as bytes. -/
def readGroups (isLast : Bool) : List (List Char) → Option (List Nat)
  | [] => some []
  | [text] =>
    match readGroup text with
    | some group => some [group]
    | none => if isLast then readDotted text else none
  | text :: rest =>
    match readGroup text, readGroups isLast rest with
    | some group, some groups => some (group :: groups)
    | _, _ => none

/-- The groups on one side of a gap; there may be none. -/
def readSide (isLast : Bool) (text : String) : Option (List Nat) :=
  if text.isEmpty then some [] else readGroups isLast (Text.pieces ':' text.toList)

/-- An address of eight groups. Two colons stand for as many groups of zero as are missing. -/
def readEight (text : String) : Option (List Nat) :=
  match text.splitOn "::" with
  | [whole] => (readSide true whole).filter (·.length = 8)
  | [left, right] =>
    match readSide false left, readSide true right with
    | some left, some right =>
      if left.length + right.length < 8 then
        some (left ++ List.replicate (8 - (left.length + right.length)) 0 ++ right)
      else none
    | _, _ => none
  | _ => none

theorem length_of_readEight {text : String} {groups : List Nat} (h : readEight text = some groups) :
    groups.length = 8 := by
  unfold readEight at h
  split at h
  · obtain ⟨_, hlength⟩ := Option.filter_eq_some_iff.1 h
    simpa using hlength
  · split at h
    · split at h
      · rw [← Option.some.inj h]
        simp only [List.length_append, List.length_replicate]
        omega
      · exact absurd h (by simp)
    · exact absurd h (by simp)
  · exact absurd h (by simp)

/-- An address of eight groups, with the number of a link behind a percent sign or without. -/
def readScoped (text : String) : Option Destination :=
  match Text.cut '%' text with
  | [address] => (readEight address).map (ofGroups · 0)
  | [address, scope] =>
    if scope.isEmpty then none
    else
      match readEight address, readBase 10 scope.toList with
      | some eight, some scope => some (ofGroups eight scope)
      | _, _ => none
  | _ => none

def isLabel (label : List Char) : Bool :=
  !label.isEmpty && label.length ≤ 63 && label.all fun c => c.isAlphanum || c = '-' || c = '_'

/-- Whether a text can be the name of a host: labels with dots between them, and perhaps one at the end. -/
def isName (text : String) : Bool :=
  let labels := Text.pieces '.' text.toList
  let labels := if labels.getLast? = some [] then labels.dropLast else labels
  text.length ≤ 253 && text.toList.head? ≠ some '-' && labels.all isLabel

/-- The complaint about a lookup. -/
def lookupFault (reason : String) : IoError :=
  .described .uncategorized ("failed to lookup address information: " ++ reason)

/-- What the host of an address stands for. In brackets, before a port of digits alone, there can only be
an address of eight groups. -/
def ofAddress (address : String) : Except IoError Destination :=
  if address.toList.contains '\x00' then
    .error (.described .invalidInput "file name contained an unexpected NUL byte")
  else
    match Address.parts? address with
    | none => .error (lookupFault "Name or service not known")
    | some (host, port) =>
      let bracketed :=
        if port.startsWith "+" then none
        else
          match host.toList with
          | '[' :: inner =>
            if inner.getLast? = some ']' then readScoped (String.ofList inner.dropLast) else none
          | _ => none
      match bracketed <|> (readBytes host).map ofBytes <|> readScoped host with
      | some destination => .ok destination
      | none =>
        if isName host then .ok (ofName host) else .error (lookupFault "Name or service not known")

/-- The name that every host has for itself. -/
def isOwnName (name : String) : Bool := name.toLower == "localhost"

/-- Whether groups are an address of four bytes in disguise. -/
def isMapped (groups : List Nat) : Bool := groups.take 6 == [0, 0, 0, 0, 0, 0xFFFF]

/-- Whether groups are an address for many receivers. -/
def isMulticast (groups : List Nat) : Bool := groups.head?.any (0xFF00 ≤ ·)

/-- Whether groups mean something on one link only. -/
def isLinkLocal (groups : List Nat) : Bool :=
  groups.head?.any fun first => decide (0xFE80 ≤ first ∧ first ≤ 0xFEBF)

end Destination

end Courier.Network
