import Courier.Text.Columns
import Courier.Text.Pieces

/-! # Boxed tables

A table with a header row, drawn with box characters. A cell may have several lines; each column is as
wide as its widest line, with a blank on either side. There is a limit to the width of a column, and
lines that are wider are broken, between words where that is possible.
-/

namespace Courier.Text.Boxed

/-- The widest that a column can be, blanks included. -/
def widthLimit : Nat := 65535

/-- Columns that must be free in a line for another word to begin in it. -/
def leastFree : Nat := 2

/-- The lines of a cell: the text cut at its line feeds. -/
def lines (cell : String) : List String :=
  cut '\n' cell

/-- The widest line of every column. -/
def widths (rows : List (List String)) : List Nat :=
  let wide (cell : String) := min widthLimit (((lines cell).map columns).foldl max 0)
  match rows with
  | [] => []
  | first :: rest =>
    rest.foldl (fun widths row => (widths.zip row).map fun (width, cell) => max width (wide cell))
      (first.map wide)

/-- How many of the characters have room in a width, of which a part is used. -/
def fitting (width used count : Nat) : List Char → Nat
  | [] => count
  | c :: rest =>
    if used + charColumns c ≤ width then fitting width (used + charColumns c) (count + 1) rest
    else count

/-- The words of a line that is being filled, the last one first, and the columns they take. -/
structure Filling where
  words : List (List Char) := []
  width : Nat := 0

namespace Filling

/-- The filling with another word, set off by a blank from the words before it. -/
def add (filling : Filling) (word : List Char) : Filling :=
  let width := (measured word).1.toNat
  match filling.words with
  | [] => if word.isEmpty then filling else ⟨[word], width⟩
  | words => ⟨word :: words, filling.width + 1 + width⟩

def line (filling : Filling) : String :=
  String.ofList ([' '].intercalate filling.words.reverse)

/-- The lines that are complete with a filling, and the filling to go on with. -/
def settle (filling : Filling) (width : Nat) : List String × Filling :=
  if width - leastFree < filling.width then ([filling.line], {}) else ([], filling)

/-- The columns that are used up when another word begins. -/
def used (filling : Filling) : Nat :=
  if filling.words.isEmpty then 0 else filling.width + 1

/-- How many characters of a word that is too wide for any line begin it here: those that have room, and
at least one if the line is new. -/
def share (filling : Filling) (width : Nat) (word : List Char) : Nat :=
  max (fitting width filling.used 0 word) (if filling.words.isEmpty then 1 else 0)

theorem share_pos {filling : Filling} (h : filling.words = []) (width : Nat) (word : List Char) :
    0 < filling.share width word := by
  simp only [share, h, List.isEmpty_nil]
  exact Nat.le_max_right _ _

end Filling

/-- How much is left to fill lines with: the characters of the words, one more for each word, and half a
character for a line that has begun. -/
def load (filling : Filling) : List (List Char) → Nat
  | [] => if filling.words.isEmpty then 0 else 1
  | word :: rest => 2 * (word.length + 1) + load filling rest

theorem load_le (filling : Filling) (words : List (List Char)) :
    load filling words ≤ load {} words + 1 := by
  induction words with
  | nil => simp only [load]; split <;> simp
  | cons word rest ih => simp only [load]; omega

theorem load_of_words_ne_nil {filling : Filling} (h : filling.words ≠ []) (words : List (List Char)) :
    load filling words = load {} words + 1 := by
  induction words with
  | nil => simp [load, h]
  | cons word rest ih => simp only [load, ih]; omega

theorem load_empty_le (filling : Filling) (words : List (List Char)) :
    load {} words ≤ load filling words := by
  induction words with
  | nil => simp [load]
  | cons word rest ih => simp only [load]; omega

/-- Fills lines of a width with words. A word that is too wide for any line begins where there is room and
is broken at the width. -/
def fill (width : Nat) (filling : Filling) : List (List Char) → List String
  | [] => if filling.words.isEmpty then [] else [filling.line]
  | word :: rest =>
    let wordWidth := (measured word).1.toNat
    if filling.used + wordWidth ≤ width then
      let (done, next) := (filling.add word).settle width
      done ++ fill width next rest
    else if filling.words ≠ [] ∧ width - filling.used ≤ leastFree then
      filling.line :: fill width {} (word :: rest)
    else if width < wordWidth then
      let count := filling.share width word
      (filling.add (word.take count)).line :: fill width {} (word.drop count :: rest)
    else
      let (done, next) := (({} : Filling).add word).settle width
      filling.line :: (done ++ fill width next rest)
termination_by words => load filling words
decreasing_by
  · have hnext := load_le next rest
    have hold := load_empty_le filling rest
    simp only [load]
    omega
  · rename_i hfull
    rw [load_of_words_ne_nil hfull.1]
    omega
  · rename_i hwide
    have hword : 0 < word.length := by
      cases word with
      | nil => exact absurd hwide (Nat.not_lt_zero width)
      | cons c others => exact Nat.succ_pos others.length
    by_cases hwords : filling.words = []
    · have hcount := Filling.share_pos hwords width word
      have hold := load_empty_le filling rest
      simp only [load, List.length_drop]
      omega
    · rw [load_of_words_ne_nil hwords]
      simp only [load, List.length_drop]
      omega
  · have hnext := load_le next rest
    have hold := load_empty_le filling rest
    simp only [load]
    omega

/-- The lines that a line of a cell takes in a column. -/
def breakLine (width : Nat) (line : String) : List String :=
  if width < columns line then fill width {} (pieces ' ' line.toList) else [line]

def blanks (count : Nat) : String :=
  "".pushn ' ' count

/-- The whole width of a column, with the blanks beside its lines. -/
def outerWidth (width : Nat) : Nat :=
  min widthLimit (width + 2)

/-- A line of a cell, filled up to the width of its column. -/
def pad (width : Nat) (line : String) : String :=
  " " ++ line ++ blanks (width - columns line) ++ " "

/-- A ruler between rows. -/
def rule (left fill cross right : String) (widths : List Nat) : String :=
  left ++ cross.intercalate
    (widths.map fun width => String.join (List.replicate (outerWidth width) fill)) ++ right

/-- The lines of a row; the cells with fewer lines are filled up with blanks. -/
def row (widths : List Nat) (cells : List String) : List String :=
  let cells := (widths.zip cells).map fun (width, cell) =>
    (width, (lines cell).flatMap (breakLine width))
  let height := (cells.map fun (_, lines) => lines.length).foldl max 0
  (List.range height).map fun i =>
    "│" ++ "┆".intercalate (cells.map fun (width, lines) =>
      match lines[i]? with
      | some line => pad width line
      | none => blanks (outerWidth width)) ++ "│"

/-- The lines of a table of one header and one row under it. -/
def render (header cells : List String) : String :=
  let widths := widths [header, cells]
  "\n".intercalate <|
    [rule "┌" "─" "┬" "┐" widths] ++ row widths header ++ [rule "╞" "═" "╪" "╡" widths]
      ++ row widths cells ++ [rule "└" "─" "┴" "┘" widths]

end Courier.Text.Boxed
