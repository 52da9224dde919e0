/-! # Classes of characters

A class of characters is a list of ranges of code points in ascending order; `inRanges` stops at the
first range that starts past the character.
-/

namespace Courier.Text

/-- Whether a code point lies in one of the ranges, which ascend. -/
def inRanges : List (Nat × Nat) → Nat → Bool
  | [], _ => false
  | (first, last) :: rest, code =>
    if code < first then false else if code ≤ last then true else inRanges rest code

theorem mem_of_inRanges {ranges : List (Nat × Nat)} {code : Nat} (h : inRanges ranges code = true) :
    ∃ range ∈ ranges, range.1 ≤ code ∧ code ≤ range.2 := by
  induction ranges with
  | nil => simp [inRanges] at h
  | cons range rest ih =>
    obtain ⟨first, last⟩ := range
    simp only [inRanges] at h
    split at h
    · cases h
    · split at h
      · exact ⟨(first, last), by simp, by omega, by omega⟩
      · obtain ⟨range, hmem, hle⟩ := ih h
        exact ⟨range, List.mem_cons_of_mem _ hmem, hle⟩

end Courier.Text
