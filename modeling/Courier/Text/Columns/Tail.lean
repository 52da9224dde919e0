import Courier.Text.Columns.Character
import Courier.Text.Columns.Emoji

/-! # Joined characters

Some characters are written together with the ones after them: flags of two letters, pictures behind a
joiner, coloured pictures, and ligatures of several scripts. A text is measured from its end, so when a
character is reached, what it may join is known. `Tail` is that knowledge, and `Tail.join?` says what
a character that does join adds to the columns behind it.
-/

namespace Courier.Text

/-- What stands behind a character, as far as the character may join it. -/
inductive Tail where
  | plain
  | lineFeed
  | picture
  | skinTone
  /-- The letters of flags. -/
  | flag (letters : Nat)
  /-- A joiner with a picture behind it. -/
  | joined
  /-- A keycap behind which a joined picture stands. -/
  | joinedKeycap
  /-- The letters of flags behind which a joined picture stands. -/
  | joinedFlag (letters : Nat)
  /-- The hidden end of a region's name, behind which a joined picture stands: letters, and digits before
  them. -/
  | joinedRegion (letters digits : Nat)
  /-- The Kirat Rai vowels E and AI, which are built of one another. -/
  | vowelE
  | vowelAi
  /-- An Arabic Alef. -/
  | alef
  /-- A Hebrew Lamed, perhaps with a joiner before it. -/
  | lamed (isJoined : Bool)
  /-- A Buginese Ya, perhaps with a joiner before it, or with a vowel I before the joiner. -/
  | ya (isJoined : Bool)
  | yaAfterI
  /-- A Tifinagh consonant, perhaps with a joiner before it, or with the joiner of its script. -/
  | consonant (isJoined : Bool)
  | joinedConsonant
  /-- A second Lisu tone letter. -/
  | secondTone
  /-- An Old Turkic I, perhaps with a joiner before it. -/
  | orkhonI (isJoined : Bool)
  /-- A Khmer letter that can be written below another one. -/
  | subscript
deriving DecidableEq

/-- The Arabic letters Lam and Alef, in all their forms. -/
def lams : List (Nat × Nat) :=
  [ (0x644, 0x644), (0x6B5, 0x6B8), (0x76A, 0x76A), (0x8A6, 0x8A6), (0x8C7, 0x8C7) ]

def alefs : List (Nat × Nat) :=
  [ (0x622, 0x623), (0x625, 0x625), (0x627, 0x627), (0x671, 0x673), (0x675, 0x675), (0x773, 0x774),
    (0x870, 0x882) ]

def tifinaghConsonants : List (Nat × Nat) :=
  [ (0x2D31, 0x2D65), (0x2D6F, 0x2D6F) ]

/-- The Khmer letters whose form below another letter needs no room beside it. -/
def khmerSubscripts : List (Nat × Nat) :=
  [ (0x1780, 0x1782), (0x1784, 0x1787), (0x1789, 0x178C), (0x178E, 0x1793), (0x1795, 0x1798),
    (0x179B, 0x179D), (0x17A0, 0x17A0), (0x17A2, 0x17A2), (0x17A7, 0x17A7), (0x17AB, 0x17AC),
    (0x17AF, 0x17AF) ]

/-- The first and the second of two Lisu tone letters that make one tone. -/
def firstTones : List (Nat × Nat) := [ (0xA4F8, 0xA4FB) ]

def secondTones : List (Nat × Nat) := [ (0xA4FC, 0xA4FD) ]

namespace Tail

/-- The tail that begins with a character which joins nothing behind it. -/
def ofChar (c : Char) : Tail :=
  if isPicture c then .picture
  else if isSkinTone c then .skinTone
  else if isFlagLetter c then .flag 1
  else if inRanges alefs c.toNat then .alef
  else if c = '\u05dc' then .lamed false
  else if c = '\u1a10' then .ya false
  else if inRanges khmerSubscripts c.toNat then .subscript
  else if inRanges tifinaghConsonants c.toNat then .consonant false
  else if inRanges secondTones c.toNat then .secondTone
  else if c.toNat = 0x10C03 then .orkhonI false
  else if c.toNat = 0x16D67 then .vowelE
  else if c.toNat = 0x16D68 then .vowelAi
  else .plain

/-- Whether a letter stands first that others can be joined to across ignorable marks. -/
def isLigature : Tail → Bool
  | .alef | .lamed _ | .ya _ | .yaAfterI | .consonant _ | .joinedConsonant | .secondTone
  | .orkhonI _ | .subscript => true
  | _ => false

/-- Whether a sign that is asked for its picture form joins the picture behind it. -/
def isJoinedPicture : Tail → Bool
  | .joined | .joinedKeycap => true
  | _ => false

/-- The tail of a ligature with a joiner before it. -/
def afterJoiner : Tail → Tail
  | .lamed _ => .lamed true
  | .ya _ => .ya true
  | .consonant _ => .consonant true
  | .orkhonI _ => .orkhonI true
  | tail => tail

/-- A character that joins a tail: by how much the columns grow, and the tail that begins with it. -/
def join? (tail : Tail) (c : Char) : Option (Int × Tail) :=
  match tail with
  | .plain | .lineFeed | .joinedKeycap => none
  | .picture => if c = joiner then some (0, .joined) else none
  | .skinTone =>
    if isColourable c then some (0, .picture)
    else if c = joiner then some (0, .joined)
    else none
  | .flag letters =>
    if isFlagLetter c then some (1, .flag (letters + 1))
    else if c = joiner ∧ 2 ≤ letters then some (0, .joined)
    else none
  | .joined =>
    if c = keycap then some (0, .joinedKeycap)
    else if isFlagLetter c then some (1, .joinedFlag 1)
    else if isSkinTone c then some (0, .skinTone)
    else if c = tagEnd then some (0, .joinedRegion 0 0)
    else if isPicture c then some (0, .picture)
    else none
  | .joinedFlag letters =>
    if isFlagLetter c then some (if letters % 2 = 0 then 3 else -1, .joinedFlag (letters + 1))
    else if c = joiner ∧ 2 ≤ letters then some (0, .joined)
    else none
  | .joinedRegion letters digits =>
    if isTagLetter c ∧ digits = 0 ∧ letters < 6 then some (0, .joinedRegion (letters + 1) 0)
    else if isTagDigit c ∧ digits < 3 ∧ (digits ≠ 0 ∨ letters ≤ 4) then
      some (0, .joinedRegion letters (digits + 1))
    else if c = blackFlag ∧ (digits = 3 ∨ (digits = 0 ∧ 3 ≤ letters)) then some (0, .picture)
    else none
  | .vowelE =>
    if c.toNat = 0x16D63 ∨ c.toNat = 0x16D69 then some (0, .plain)
    else if c.toNat = 0x16D67 then some (0, .vowelAi)
    else if c.toNat = 0x16D68 then some (1, .vowelE)
    else none
  | .vowelAi => if c.toNat = 0x16D63 then some (0, .plain) else none
  | .alef =>
    if inRanges lams c.toNat then some (0, .plain)
    else if isTransparent c then some (0, .alef)
    else none
  | .lamed isJoined => if isJoined ∧ c = '\u05d0' then some (0, .plain) else none
  | .ya isJoined => if isJoined ∧ c = '\u1a17' then some (0, .yaAfterI) else none
  | .yaAfterI => if c = '\u1a15' then some (0, .plain) else none
  | .consonant isJoined =>
    if c = '\u2d7f' then some (1, .joinedConsonant)
    else if isJoined ∧ inRanges tifinaghConsonants c.toNat then some (0, .plain)
    else none
  | .joinedConsonant => if inRanges tifinaghConsonants c.toNat then some (-1, .plain) else none
  | .secondTone => if inRanges firstTones c.toNat then some (0, .plain) else none
  | .orkhonI isJoined => if isJoined ∧ c.toNat = 0x10C32 then some (0, .plain) else none
  | .subscript => if c = '\u17d2' then some (-1, .plain) else none

end Tail

end Courier.Text
