import Courier.Text.Blank
import Mathlib.Data.List.DropRight
import Mathlib.Data.List.TakeWhile

/-! # Texts without the blanks around them

Whatever blanks stand around a text, the same text is left without them (`trimChars_append`), and nothing but
blanks is lost (`padded_trimChars`). A blank between two other characters is not around a text and stays
(`BlankInside.exists_mem`).
-/

namespace Courier.Text

variable {chars left right before after : List Char} {c : Char} {text core : String}

def AllBlank (chars : List Char) : Prop := ∀ c ∈ chars, isBlank c = true

def NoBlank (chars : List Char) : Prop := ∀ c ∈ chars, isBlank c = false

def HasInk (chars : List Char) : Prop := ∃ c ∈ chars, isBlank c = false

/-- A text is another one with blanks around it, or without. -/
def Padded (text core : String) : Prop :=
  ∃ before after : String, AllBlank before.toList ∧ AllBlank after.toList ∧ text = before ++ core ++ after

/-- A blank stands between two other characters of a text. -/
def BlankInside (text : String) : Prop :=
  ∃ left c right, text.toList = left ++ c :: right ∧ HasInk left ∧ isBlank c = true ∧ HasInk right

instance (chars : List Char) : Decidable (AllBlank chars) := List.decidableBAll _ chars

instance (chars : List Char) : Decidable (NoBlank chars) := List.decidableBAll _ chars

instance (chars : List Char) : Decidable (HasInk chars) := List.decidableBEx _ chars

/-- The visible characters of ASCII and the ones behind them up to the next line are no blanks. -/
theorem isBlank_of_visible (hlow : 0x20 < c.toNat) (hhigh : c.toNat < 0x85) : isBlank c = false := by
  have hranges : ∀ range ∈ blanks, ¬(range.1 < 0x85 ∧ 0x20 < range.2) := by decide
  rw [Bool.eq_false_iff]
  intro hblank
  obtain ⟨range, hmem, hfirst, hlast⟩ := mem_of_inRanges hblank
  exact hranges range hmem ⟨hfirst.trans_lt hhigh, hlow.trans_le hlast⟩

theorem trimChars_eq (chars : List Char) : trimChars chars = (chars.dropWhile isBlank).rdropWhile isBlank := rfl

theorem dropWhile_append_of_hasInk (h : HasInk left) (right : List Char) :
    (left ++ right).dropWhile isBlank = left.dropWhile isBlank ++ right := by
  obtain ⟨c, hc, hink⟩ := h
  have hleft : left.dropWhile isBlank ≠ [] := by
    rw [Ne, List.dropWhile_eq_nil_iff]
    exact fun hall => absurd (hall c hc) (by simp [hink])
  simp [List.dropWhile_append, hleft]

theorem rdropWhile_append_of_hasInk (h : HasInk right) (left : List Char) :
    (left ++ right).rdropWhile isBlank = left ++ right.rdropWhile isBlank := by
  have hreverse : HasInk right.reverse := by simpa [HasInk] using h
  simp [List.rdropWhile, dropWhile_append_of_hasInk hreverse]

theorem rdropWhile_append_of_allBlank (h : AllBlank after) (chars : List Char) :
    (chars ++ after).rdropWhile isBlank = chars.rdropWhile isBlank := by
  have hreverse : ∀ c ∈ after.reverse, isBlank c = true := fun c hc => h c (List.mem_reverse.1 hc)
  simp [List.rdropWhile, List.dropWhile_append_of_pos hreverse]

theorem hasInk_or_allBlank (chars : List Char) : HasInk chars ∨ AllBlank chars := by
  by_cases h : HasInk chars
  · exact .inl h
  · exact .inr fun c hc => by_contra fun hink => h ⟨c, hc, by simpa using hink⟩

theorem trimChars_of_allBlank (h : AllBlank chars) : trimChars chars = [] := by
  rw [trimChars_eq, List.dropWhile_eq_nil_iff.2 h, List.rdropWhile_nil]

theorem trimChars_append (hbefore : AllBlank before) (hafter : AllBlank after) (chars : List Char) :
    trimChars (before ++ chars ++ after) = trimChars chars := by
  rw [trimChars_eq, List.append_assoc, List.dropWhile_append_of_pos hbefore]
  rcases hasInk_or_allBlank chars with hink | hblank
  · rw [dropWhile_append_of_hasInk hink, rdropWhile_append_of_allBlank hafter, trimChars_eq]
  · have hall : AllBlank (chars ++ after) := fun c hc => (List.mem_append.1 hc).elim (hblank c) (hafter c)
    rw [trimChars_of_allBlank hblank]
    exact trimChars_of_allBlank hall

theorem exists_around_trimChars (chars : List Char) : ∃ before after, AllBlank before ∧ AllBlank after ∧
    chars = before ++ trimChars chars ++ after := by
  refine ⟨chars.takeWhile isBlank, (chars.dropWhile isBlank).rtakeWhile isBlank,
    fun c => List.mem_takeWhile_imp, fun c => List.mem_rtakeWhile_imp, ?_⟩
  rw [List.append_assoc, trimChars_eq, List.rdropWhile_append_rtakeWhile, List.takeWhile_append_dropWhile]

/-- Without the blanks around it a text has lost nothing else. -/
theorem padded_trimChars (text : String) : Padded text (String.ofList (trimChars text.toList)) := by
  obtain ⟨before, after, hbefore, hafter, htext⟩ := exists_around_trimChars text.toList
  refine ⟨String.ofList before, String.ofList after, by simpa using hbefore, by simpa using hafter, ?_⟩
  apply String.toList_injective
  simpa using htext

theorem trimChars_of_noBlank (h : NoBlank chars) : trimChars chars = chars := by
  obtain ⟨before, after, hbefore, hafter, heq⟩ := exists_around_trimChars chars
  have hnone (blanks : List Char) (hblank : AllBlank blanks) (hmem : ∀ c ∈ blanks, c ∈ chars) :
      blanks = [] := by
    refine List.eq_nil_iff_forall_not_mem.2 fun c hc => ?_
    exact Bool.false_ne_true ((h c (hmem c hc)).symm.trans (hblank c hc))
  have hfirst : before = [] := hnone before hbefore fun c hc => by rw [heq]; simp [hc]
  have hlast : after = [] := hnone after hafter fun c hc => by rw [heq]; simp [hc]
  rw [hfirst, hlast, List.nil_append, List.append_nil] at heq
  exact heq.symm

theorem Padded.trimChars (h : Padded text core) (hcore : NoBlank core.toList) :
    Text.trimChars text.toList = core.toList := by
  obtain ⟨before, after, hbefore, hafter, rfl⟩ := h
  simp only [String.toList_append]
  rw [trimChars_append hbefore hafter, trimChars_of_noBlank hcore]

theorem mem_trimChars_of_between (hleft : HasInk left) (hright : HasInk right) :
    c ∈ trimChars (left ++ c :: right) := by
  have hink : HasInk (c :: right) := by
    obtain ⟨d, hd, hblank⟩ := hright
    exact ⟨d, List.mem_cons_of_mem c hd, hblank⟩
  have hkept : (c :: right).rdropWhile isBlank = c :: right.rdropWhile isBlank :=
    rdropWhile_append_of_hasInk hright [c]
  rw [trimChars_eq, dropWhile_append_of_hasInk hleft, rdropWhile_append_of_hasInk hink, hkept]
  simp

theorem BlankInside.exists_mem (h : BlankInside text) : ∃ c ∈ trimChars text.toList, isBlank c = true := by
  obtain ⟨left, c, right, htext, hleft, hblank, hright⟩ := h
  exact ⟨c, htext ▸ mem_trimChars_of_between hleft hright, hblank⟩

end Courier.Text
