import Courier.Text.Boxed
import Mathlib.Data.List.Forall2

/-! # Tables whose cells are lines

Cells that are lines, none of them wider than a column can be, stand whole and in order in the rows that they
are given for (`tabled_render`).
-/

namespace Courier.Text.Boxed

variable {cell : String} {header cells : List String} {sizes : List Nat} {width : Nat}

structure IsLine (cell : String) : Prop where
  whole : '\n' ∉ cell.toList
  fits : columns cell ≤ widthLimit

/-- The row is one line, with the cells in order and blanks around each of them. -/
def IsRow (cells : List String) (row : String) : Prop :=
  ∃ gaps : List Nat, gaps.length = cells.length ∧
    row = "│" ++ "┆".intercalate
      (List.zipWith (fun gap cell => " " ++ cell ++ "".pushn ' ' gap ++ " ") gaps cells) ++ "│"

/-- The text is a box around a header and a row under it. -/
def Tabled (header cells : List String) (text : String) : Prop :=
  ∃ top head middle body bottom, text = "\n".intercalate [top, head, middle, body, bottom] ∧
    IsRow header head ∧ IsRow cells body

def HaveRoom (sizes : List Nat) (cells : List String) : Prop :=
  List.Forall₂ (fun width cell => IsLine cell ∧ columns cell ≤ width) sizes cells

theorem IsLine.lines (h : IsLine cell) : lines cell = [cell] := by
  rw [Boxed.lines, cut, pieces_of_notMem h.whole, List.map_singleton, String.ofList_toList]

theorem IsLine.breakLines (h : IsLine cell) (hwidth : columns cell ≤ width) :
    (Boxed.lines cell).flatMap (breakLine width) = [cell] := by
  rw [h.lines, List.flatMap_singleton, breakLine, if_neg (Nat.not_lt.2 hwidth)]

theorem IsLine.wide (h : IsLine cell) :
    min widthLimit (((Boxed.lines cell).map columns).foldl max 0) = columns cell := by
  rw [h.lines, List.map_singleton, List.foldl_cons, List.foldl_nil, Nat.zero_max, Nat.min_eq_right h.fits]

theorem map_pad_zip (h : HaveRoom sizes cells) :
    (sizes.zip cells).map (fun (width, cell) => pad width cell)
      = List.zipWith (fun gap cell => " " ++ cell ++ "".pushn ' ' gap ++ " ")
        (List.zipWith (fun width cell => width - columns cell) sizes cells) cells := by
  induction h with
  | nil => rfl
  | cons _ _ ih => exact congrArg _ ih

theorem map_lines_zip (h : HaveRoom sizes cells) :
    (sizes.zip cells).map (fun (width, cell) => (width, (lines cell).flatMap (breakLine width)))
      = (sizes.zip cells).map fun (width, cell) => (width, [cell]) := by
  induction h with
  | nil => rfl
  | cons hcell _ ih => exact congrArg₂ (fun lines rest => (_, lines) :: rest) (hcell.1.breakLines hcell.2) ih

theorem height_eq_one {entries : List (Nat × String)} (hne : entries ≠ []) :
    ((entries.map fun (width, cell) => (width, [cell])).map fun (_, lines) => lines.length).foldl max 0 = 1 := by
  cases entries with
  | nil => exact absurd rfl hne
  | cons _ entries =>
    induction entries with
    | nil => rfl
    | cons _ entries ih => exact ih (List.cons_ne_nil _ entries)

theorem HaveRoom.exists_row (h : HaveRoom sizes cells) (hne : cells ≠ []) :
    ∃ line, row sizes cells = [line] ∧ IsRow cells line := by
  have hentries : sizes.zip cells ≠ [] := by
    cases h with
    | nil => exact absurd rfl hne
    | cons => exact List.cons_ne_nil _ _
  refine ⟨"│" ++ "┆".intercalate ((sizes.zip cells).map fun (width, cell) => pad width cell) ++ "│", ?_,
    List.zipWith (fun width cell => width - columns cell) sizes cells, ?_, ?_⟩
  · -- no cell takes more than one line, so the row is one
    rw [row, map_lines_zip h]
    dsimp only
    rw [height_eq_one hentries, List.range_one, List.map_singleton, List.map_map]
    rfl
  · rw [List.length_zipWith, h.length_eq, Nat.min_self]
  · rw [map_pad_zip h]

/-- Every column has room for the header and for the cell under it. -/
theorem haveRoom_widths (hlines : List.Forall₂ (fun above below => IsLine above ∧ IsLine below) header cells) :
    HaveRoom (widths [header, cells]) header ∧ HaveRoom (widths [header, cells]) cells := by
  induction hlines with
  | nil => exact ⟨.nil, .nil⟩
  | @cons above below header cells hlines _ ih =>
    obtain ⟨habove, hbelow⟩ := hlines
    obtain ⟨hheader, hcells⟩ := ih
    have hwidth : widths [above :: header, below :: cells]
        = max (columns above) (columns below) :: widths [header, cells] := by
      simp [widths, habove.wide, hbelow.wide]
    rw [hwidth]
    exact ⟨.cons ⟨habove, Nat.le_max_left _ _⟩ hheader, .cons ⟨hbelow, Nat.le_max_right _ _⟩ hcells⟩

theorem tabled_render (hne : cells ≠ []) (hlength : header.length = cells.length)
    (hheader : ∀ cell ∈ header, IsLine cell) (hcells : ∀ cell ∈ cells, IsLine cell) :
    Tabled header cells (render header cells) := by
  have hne' : header ≠ [] := List.length_pos_iff.1 (hlength ▸ List.length_pos_iff.2 hne)
  have hlines : List.Forall₂ (fun above below => IsLine above ∧ IsLine below) header cells :=
    List.forall₂_iff_zip.2 ⟨hlength, fun hmem =>
      ⟨hheader _ (List.of_mem_zip hmem).1, hcells _ (List.of_mem_zip hmem).2⟩⟩
  obtain ⟨habove, hbelow⟩ := haveRoom_widths hlines
  obtain ⟨head, hhead, hheadRow⟩ := habove.exists_row hne'
  obtain ⟨body, hbody, hbodyRow⟩ := hbelow.exists_row hne
  refine ⟨rule "┌" "─" "┬" "┐" (widths [header, cells]), head, rule "╞" "═" "╪" "╡" (widths [header, cells]),
    body, rule "└" "─" "┴" "┘" (widths [header, cells]), ?_, hheadRow, hbodyRow⟩
  rw [render, hhead, hbody]
  rfl

example : render ["PEER", "KIND"] ["a", "SEGMENT"] = "\n".intercalate
    ["┌──────┬─────────┐",
      "│ PEER ┆ KIND    │",
      "╞══════╪═════════╡",
      "│ a    ┆ SEGMENT │",
      "└──────┴─────────┘"] := by
  decide +kernel

end Courier.Text.Boxed
