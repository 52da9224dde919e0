/-! # Texts in pieces

A text cut at every occurrence of a character. There is one piece more than there are cuts, so the empty
text has one piece, and joining the pieces again gives the text back.
-/

namespace Courier.Text

/-- Characters cut at a separator, which no piece keeps. -/
def pieces (separator : Char) (chars : List Char) : List (List Char) :=
  chars.foldr
    (fun c cut =>
      if c == separator then [] :: cut
      else
        match cut with
        | [] => [[c]]
        | piece :: rest => (c :: piece) :: rest)
    [[]]

theorem pieces_cons_separator (separator : Char) (chars : List Char) :
    pieces separator (separator :: chars) = [] :: pieces separator chars := by
  simp [pieces]

theorem pieces_ne_nil (separator : Char) (chars : List Char) : pieces separator chars ≠ [] := by
  cases chars with
  | nil => simp [pieces]
  | cons c rest =>
    simp only [pieces, List.foldr_cons]
    split
    · simp
    · split <;> simp

theorem pieces_cons {separator c : Char} (h : c ≠ separator) {chars piece : List Char}
    {rest : List (List Char)} (hcut : pieces separator chars = piece :: rest) :
    pieces separator (c :: chars) = (c :: piece) :: rest := by
  rw [pieces, List.foldr_cons, if_neg (by simpa using h)]
  rw [pieces] at hcut
  rw [hcut]

theorem pieces_of_notMem {separator : Char} {chars : List Char} (h : separator ∉ chars) :
    pieces separator chars = [chars] := by
  induction chars with
  | nil => rfl
  | cons c rest ih =>
    rw [List.mem_cons, not_or] at h
    exact pieces_cons (Ne.symm h.1) (ih h.2)

theorem pieces_append_separator (separator : Char) (left right : List Char) :
    pieces separator (left ++ separator :: right) = pieces separator left ++ pieces separator right := by
  induction left with
  | nil => exact pieces_cons_separator separator right
  | cons c left ih =>
    rw [List.cons_append]
    by_cases h : c = separator
    · subst h
      rw [pieces_cons_separator, pieces_cons_separator, ih, List.cons_append]
    · cases hcut : pieces separator left with
      | nil => exact absurd hcut (pieces_ne_nil separator left)
      | cons piece others =>
        rw [hcut, List.cons_append] at ih
        rw [pieces_cons h ih, pieces_cons h hcut, List.cons_append]

/-- The pieces of characters, joined by the separator, are the characters. -/
theorem intercalate_pieces (separator : Char) (chars : List Char) :
    [separator].intercalate (pieces separator chars) = chars := by
  induction chars with
  | nil => rfl
  | cons c rest ih =>
    by_cases h : c = separator
    · subst h
      rw [pieces_cons_separator]
      cases hcut : pieces c rest with
      | nil => exact absurd hcut (pieces_ne_nil c rest)
      | cons piece others =>
        rw [hcut] at ih
        simp [List.intercalate_cons_cons, ih]
    · cases hcut : pieces separator rest with
      | nil => exact absurd hcut (pieces_ne_nil separator rest)
      | cons piece others =>
        rw [hcut] at ih
        rw [pieces_cons h hcut]
        cases others with
        | nil => simpa using ih
        | cons other others =>
          simp only [List.intercalate_cons_cons, List.cons_append] at ih ⊢
          rw [ih]

/-- A text cut at a separator. -/
def cut (separator : Char) (text : String) : List String :=
  (pieces separator text.toList).map String.ofList

end Courier.Text
