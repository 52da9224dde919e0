import Courier.Text.Columns.Tail

/-! # Columns

How many columns a text takes on a terminal: the sum over its characters, each of which may join what
stands behind it. `columns` measures from the end, where a selector still waits for the sign before it.
-/

namespace Courier.Text

/-- What a selector asks of the sign before it. -/
inductive Selector where
  | picture
  | text
  | wide
deriving DecidableEq

/-- What is known when a character is reached: what it may join, and the selector right behind it. -/
structure Follow where
  tail : Tail := .plain
  selector : Option Selector := none
deriving DecidableEq

namespace Follow

/-- A selector in front of a tail. The tail stays open behind it only if the sign that is asked can still
join it. -/
def select (tail : Tail) (selector : Selector) : Follow :=
  if tail.isLigature || (selector = .picture && tail.isJoinedPicture) then ⟨tail, some selector⟩
  else ⟨.plain, some selector⟩

/-- The tail for a character that a selector behind it asks in vain. -/
def released (follow : Follow) : Tail :=
  if follow.selector.isNone || follow.tail.isLigature then follow.tail else .plain

/-- What a character adds that no selector asks for another form. -/
def measure (tail : Tail) (c : Char) : Int × Follow :=
  if c = '\n' then (1, { tail := .lineFeed })
  else if c = '\r' ∧ tail = .lineFeed then (0, {})
  else if c.toNat ≤ 0xA0 then (1, {})
  else if c = pictureSelector then (0, select tail .picture)
  else if c = textSelector then (0, select tail .text)
  else if c = wideSelector then (0, select tail .wide)
  else if tail.isLigature ∧ tail ≠ .alef ∧ c = joiner then (0, { tail := tail.afterJoiner })
  else if tail.isLigature ∧ tail ≠ .alef ∧ isIgnorableMark c then (0, { tail })
  else
    match tail.join? c with
    | some (growth, tail) => (growth, { tail })
    | none => (charColumns c, { tail := .ofChar c })

/-- The quotation marks that have a wide form. -/
def hasWideForm (c : Char) : Bool :=
  c = '‘' || c = '’' || c = '“' || c = '”'

/-- What a character adds to the columns behind it, and what is known in front of it. -/
def add (follow : Follow) (c : Char) : Int × Follow :=
  match follow.selector with
  | some .picture =>
    if hasPictureForm c then (if follow.tail.isJoinedPicture then 0 else 2, { tail := .picture })
    else measure follow.released c
  | some .text => if hasTextForm c then (1, {}) else measure follow.released c
  | some .wide => if hasWideForm c then (2, {}) else measure follow.released c
  | none => measure follow.released c

end Follow

/-- The columns of a text, and what is known in front of it. -/
def measured (chars : List Char) : Int × Follow :=
  chars.foldr
    (fun c (sum, follow) =>
      let (growth, follow) := follow.add c
      (sum + growth, follow))
    (0, {})

def columns (text : String) : Nat :=
  (measured text.toList).1.toNat

end Courier.Text
