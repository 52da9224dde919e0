import Courier.Command.Word
import Courier.Proofs.Text.Trimming
import Mathlib

/-! # Commands that are understood

A command is understood exactly if it is one of the three words with blanks around it, in whatever case its
ASCII letters are. Letters that only look alike, blanks inside a word and further characters are not overlooked
(`words_are_understood_up_to_blanks_and_case`).
-/

namespace Courier

namespace Text

variable {left right : Char} {c : Char} {text other : String}

def SameLetter (left right : Char) : Prop :=
  left = right ∨ (left.isUpper = true ∧ right.toNat = left.toNat + 32) ∨
    (right.isUpper = true ∧ left.toNat = right.toNat + 32)

/-- Texts that differ in the case of ASCII letters at most. -/
def EqUpToCase (text other : String) : Prop := List.Forall₂ SameLetter text.toList other.toList

theorem isUpper_iff : c.isUpper = true ↔ 65 ≤ c.toNat ∧ c.toNat ≤ 90 := by
  rw [Char.isUpper, decide_eq_true_iff]
  rfl

theorem toNat_toLower_of_isUpper (h : c.isUpper = true) : c.toLower.toNat = c.toNat + 32 := by
  rw [Char.toLower_eq_of_isUpper h, Char.toNat_ofNat, if_pos]
  exact .inl (by have := isUpper_iff.1 h; omega)

theorem SameLetter.toLower_eq (hupper : left.isUpper = true) (hcode : right.toNat = left.toNat + 32) :
    left.toLower = right.toLower := by
  have hright : right.isUpper ≠ true := by
    rw [Ne, isUpper_iff]
    have := isUpper_iff.1 hupper
    omega
  rw [Char.toLower_eq_of_not_isUpper hright]
  exact Char.toNat_inj.1 ((toNat_toLower_of_isUpper hupper).trans hcode.symm)

theorem sameLetter_iff : SameLetter left right ↔ left.toLower = right.toLower := by
  constructor
  · rintro (rfl | ⟨hupper, hcode⟩ | ⟨hupper, hcode⟩)
    · rfl
    · exact SameLetter.toLower_eq hupper hcode
    · exact (SameLetter.toLower_eq hupper hcode).symm
  · intro h
    by_cases hleft : left.isUpper = true
    · by_cases hright : right.isUpper = true
      · left
        have hcode := congrArg Char.toNat h
        rw [toNat_toLower_of_isUpper hleft, toNat_toLower_of_isUpper hright] at hcode
        exact Char.toNat_inj.1 (Nat.add_right_cancel hcode)
      · rw [Char.toLower_eq_of_not_isUpper hright] at h
        exact .inr (.inl ⟨hleft, h ▸ toNat_toLower_of_isUpper hleft⟩)
    · rw [Char.toLower_eq_of_not_isUpper hleft] at h
      by_cases hright : right.isUpper = true
      · exact .inr (.inr ⟨hright, h ▸ toNat_toLower_of_isUpper hright⟩)
      · rw [Char.toLower_eq_of_not_isUpper hright] at h
        exact .inl h

theorem eqUpToCase_iff : EqUpToCase text other ↔
    text.toList.map Char.toLower = other.toList.map Char.toLower := by
  have hletters : SameLetter = fun left right => left.toLower = right.toLower :=
    funext₂ fun _ _ => propext sameLetter_iff
  rw [EqUpToCase, hletters, ← List.forall₂_eq_eq_eq, List.forall₂_map_left_iff, List.forall₂_map_right_iff]

theorem isBlank_toLower (c : Char) : isBlank c.toLower = isBlank c := by
  by_cases hupper : c.isUpper = true
  · have hlower := toNat_toLower_of_isUpper hupper
    have hrange := isUpper_iff.1 hupper
    rw [isBlank_of_visible (by omega) (by omega), isBlank_of_visible (by omega) (by omega)]
  · rw [Char.toLower_eq_of_not_isUpper hupper]

theorem map_toLower_trimChars (chars : List Char) :
    (trimChars chars).map Char.toLower = trimChars (chars.map Char.toLower) := by
  have hblank : isBlank ∘ Char.toLower = isBlank := funext isBlank_toLower
  simp only [trimChars, List.dropWhile_map, hblank, ← List.map_reverse]

end Text

namespace Command

namespace Word

open Text

variable {command : String} {word : Word}

theorem ofText?_eq_some_iff {text : String} : ofText? text = some word ↔ text = word.text := by
  constructor
  · intro h
    have hfound := List.find?_some h
    simp only [beq_iff_eq] at hfound
    exact hfound.symm
  · rintro rfl
    cases word <;> decide

theorem parse_eq_ok_iff_normalize : parse command = .ok word ↔ normalize command = word.text := by
  rw [← ofText?_eq_some_iff, parse]
  cases ofText? (normalize command) <;> simp

theorem toList_normalize (command : String) :
    (normalize command).toList = (trimChars command.toList).map Char.toLower := by
  simp [normalize, lowerAscii, trim]

-- The words are written in small letters of ASCII.

theorem map_toLower_text (word : Word) : word.text.toList.map Char.toLower = word.text.toList := by
  cases word <;> rfl

theorem toNat_lt_of_mem_text {c : Char} (h : c ∈ word.text.toList) : c.toNat < 128 := by
  revert c
  cases word <;> simp [text]

theorem noBlank_text (word : Word) : NoBlank word.text.toList := by
  cases word <;> decide

theorem noBlank_of_eqUpToCase {core : String} (h : EqUpToCase core word.text) : NoBlank core.toList := by
  intro c hc
  have hmem : c.toLower ∈ word.text.toList := by
    rw [← map_toLower_text, ← eqUpToCase_iff.1 h]
    exact List.mem_map_of_mem hc
  rw [← isBlank_toLower]
  exact noBlank_text word _ hmem

theorem parse_eq_ok_iff : parse command = .ok word ↔
    ∃ core, Padded command core ∧ EqUpToCase core word.text := by
  rw [parse_eq_ok_iff_normalize, ← String.toList_inj, toList_normalize]
  constructor
  · intro h
    refine ⟨_, padded_trimChars command, eqUpToCase_iff.2 ?_⟩
    rw [String.toList_ofList, h, map_toLower_text]
  · rintro ⟨core, hpadded, hcase⟩
    rw [hpadded.trimChars (noBlank_of_eqUpToCase hcase), eqUpToCase_iff.1 hcase, map_toLower_text]

theorem accepts_iff_parse {peer : String} : accepts peer command = true ↔ ∃ word, parse command = .ok word := by
  rw [accepts]
  cases parse command with
  | ok word => exact ⟨fun _ => ⟨word, rfl⟩, fun _ => rfl⟩
  | error complaint => exact ⟨nofun, nofun⟩

theorem parse_congr {other : String} (h : normalize other = normalize command) : parse other = parse command := by
  rw [parse, parse, h]

theorem parse_append {before after : String} (hbefore : AllBlank before.toList) (hafter : AllBlank after.toList)
    (command : String) : parse (before ++ command ++ after) = parse command := by
  apply parse_congr
  rw [← String.toList_inj, toList_normalize, toList_normalize, String.toList_append, String.toList_append,
    trimChars_append hbefore hafter]

theorem parse_of_eqUpToCase {other : String} (h : EqUpToCase command other) : parse other = parse command := by
  apply parse_congr
  rw [← String.toList_inj, toList_normalize, toList_normalize, map_toLower_trimChars, map_toLower_trimChars,
    eqUpToCase_iff.1 h]

/-- All characters of a command but blanks are the letters of its word. -/
theorem map_toLower_filter_of_parse (h : parse command = .ok word) :
    (command.toList.filter fun c => !isBlank c).map Char.toLower = word.text.toList := by
  obtain ⟨core, ⟨before, after, hbefore, hafter, rfl⟩, hcase⟩ := parse_eq_ok_iff.1 h
  have hnone (blanks : List Char) (hblank : AllBlank blanks) : blanks.filter (fun c => !isBlank c) = [] :=
    List.filter_eq_nil_iff.2 fun c hc => by simp [hblank c hc]
  have hall : core.toList.filter (fun c => !isBlank c) = core.toList :=
    List.filter_eq_self.2 fun c hc => by simp [noBlank_of_eqUpToCase hcase c hc]
  simp only [String.toList_append, List.filter_append, hnone _ hbefore, hnone _ hafter, hall, List.nil_append,
    List.append_nil]
  rw [eqUpToCase_iff.1 hcase, map_toLower_text]

theorem eq_of_sublist {other : Word} (h : word.text.toList.Sublist other.text.toList) : word = other := by
  revert h
  cases word <;> cases other <;> decide

theorem not_parse_of_foreign {c : Char} (hmem : c ∈ command.toList) (hforeign : 128 ≤ c.toNat)
    (hink : isBlank c = false) : parse command ≠ .ok word := by
  intro h
  have hletter : c.toLower ∈ word.text.toList := by
    rw [← map_toLower_filter_of_parse h]
    exact List.mem_map_of_mem (List.mem_filter.2 ⟨hmem, by simp [hink]⟩)
  have hupper : c.isUpper ≠ true := by
    rw [Ne, isUpper_iff]
    omega
  rw [Char.toLower_eq_of_not_isUpper hupper] at hletter
  exact absurd (toNat_lt_of_mem_text hletter) (Nat.not_lt.2 hforeign)

theorem not_parse_of_blankInside (hinside : BlankInside command) : parse command ≠ .ok word := by
  intro h
  obtain ⟨c, hmem, hblank⟩ := hinside.exists_mem
  rw [parse_eq_ok_iff_normalize, ← String.toList_inj, toList_normalize] at h
  have hletter : c.toLower ∈ word.text.toList := h ▸ List.mem_map_of_mem hmem
  have hink := noBlank_text word _ hletter
  rw [isBlank_toLower, hblank] at hink
  cases hink

/-- No word is left of another one when some of its characters are taken out. -/
theorem not_parse_of_extra {left extra right : String} {before : Word} (hbefore : parse (left ++ right) = .ok before)
    (hink : HasInk extra.toList) : parse (left ++ extra ++ right) ≠ .ok word := by
  intro h
  have hshort := map_toLower_filter_of_parse hbefore
  have hlong := map_toLower_filter_of_parse h
  simp only [String.toList_append, List.filter_append, List.map_append] at hshort hlong
  have hsublist : before.text.toList.Sublist word.text.toList := by
    rw [← hshort, ← hlong]
    exact (List.sublist_append_left _ _).append_right _
  obtain rfl := eq_of_sublist hsublist
  have hlength := congrArg List.length (hshort.trans hlong.symm)
  obtain ⟨c, hc, hvisible⟩ := hink
  have hpositive : 0 < (extra.toList.filter fun c => !isBlank c).length :=
    List.length_pos_of_mem (List.mem_filter.2 ⟨hc, by simp [hvisible]⟩)
  simp only [List.length_append, List.length_map] at hlength
  omega

end Word

open Text (AllBlank BlankInside EqUpToCase HasInk Padded)

/-- A command is understood exactly if it is one of the three words with blanks around it, in whatever case its
ASCII letters are, and it is the command of that word. So further blanks around it and the case of such letters do
not matter. A character that is neither in ASCII nor a blank is refused, as is a blank inside, or anything but
blanks that is put into a command that was understood. The shown form of a command is understood as itself. -/
theorem words_are_understood_up_to_blanks_and_case (command : String) :
    (∀ word, Word.parse command = .ok word ↔ ∃ core, Padded command core ∧ EqUpToCase core word.text) ∧
      (∀ peer, accepts peer command = true ↔ ∃ core, Padded command core ∧
        (EqUpToCase core "reload" ∨ EqUpToCase core "passtrue" ∨ EqUpToCase core "uninstallalert")) ∧
      (∀ before after : String, AllBlank before.toList → AllBlank after.toList →
        Word.parse (before ++ command ++ after) = Word.parse command) ∧
      (∀ other, EqUpToCase command other → Word.parse other = Word.parse command) ∧
      (∀ peer, (∃ c ∈ command.toList, 128 ≤ c.toNat ∧ Text.isBlank c = false) ∨ BlankInside command ∨
          (∃ left extra right, command = left ++ extra ++ right ∧ HasInk extra.toList ∧
            accepts peer (left ++ right) = true) → accepts peer command = false) ∧
      ∀ word : Word, Word.parse word.text = .ok word := by
  refine ⟨fun word => Word.parse_eq_ok_iff, fun peer => ?_, fun _ _ hbefore hafter =>
    Word.parse_append hbefore hafter command, fun _ => Word.parse_of_eqUpToCase, fun peer hbad => ?_, ?_⟩
  · rw [Word.accepts_iff_parse]
    constructor
    · rintro ⟨word, hparse⟩
      obtain ⟨core, hpadded, hcase⟩ := Word.parse_eq_ok_iff.1 hparse
      refine ⟨core, hpadded, ?_⟩
      cases word with
      | reload => exact .inl hcase
      | passTrue => exact .inr (.inl hcase)
      | uninstallAlert => exact .inr (.inr hcase)
    · rintro ⟨core, hpadded, hcase | hcase | hcase⟩
      · exact ⟨.reload, Word.parse_eq_ok_iff.2 ⟨core, hpadded, hcase⟩⟩
      · exact ⟨.passTrue, Word.parse_eq_ok_iff.2 ⟨core, hpadded, hcase⟩⟩
      · exact ⟨.uninstallAlert, Word.parse_eq_ok_iff.2 ⟨core, hpadded, hcase⟩⟩
  · rw [Bool.eq_false_iff, Ne, Word.accepts_iff_parse]
    rintro ⟨word, hparse⟩
    rcases hbad with ⟨c, hmem, hforeign, hink⟩ | hinside | ⟨left, extra, right, rfl, hink, hbefore⟩
    · exact Word.not_parse_of_foreign hmem hforeign hink hparse
    · exact Word.not_parse_of_blankInside hinside hparse
    · obtain ⟨before, hword⟩ := Word.accepts_iff_parse.1 hbefore
      exact Word.not_parse_of_extra hword hink hparse
  · intro word
    cases word <;> rfl

/-- A command in mixed case between blanks that are not in ASCII, one with a Cyrillic letter, one with a blank inside,
and one with a character too many. -/
theorem words_are_understood_up_to_blanks_and_case_in_four :
    Word.parse "\u2003PassTrue\u0085" = .ok .passTrue ∧ accepts "a" "r\u0435load" = false ∧
      accepts "a" "re load" = false ∧ accepts "a" "reload!" = false := by
  obtain ⟨-, -, haround, hcase, -⟩ := words_are_understood_up_to_blanks_and_case "PassTrue"
  obtain ⟨-, -, -, -, hletter, -⟩ := words_are_understood_up_to_blanks_and_case "r\u0435load"
  obtain ⟨-, -, -, -, hspace, -⟩ := words_are_understood_up_to_blanks_and_case "re load"
  obtain ⟨-, -, -, -, hextra, -⟩ := words_are_understood_up_to_blanks_and_case "reload!"
  have hlower : EqUpToCase "PassTrue" "passtrue" := Text.eqUpToCase_iff.2 (by decide)
  refine ⟨?_, hletter "a" (.inl ⟨'\u0435', by decide, by decide, by decide⟩),
    hspace "a" (.inr (.inl ⟨['r', 'e'], ' ', ['l', 'o', 'a', 'd'], by decide⟩)),
    hextra "a" (.inr (.inr ⟨"reload", "!", "", by decide, by decide, by decide⟩))⟩
  have hpadded : Word.parse "\u2003PassTrue\u0085" = _ := haround "\u2003" "\u0085" (by decide) (by decide)
  rw [hpadded, ← hcase _ hlower]
  rfl

end Command

end Courier
