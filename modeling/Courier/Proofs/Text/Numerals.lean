import Courier.Text.Decimal
import Mathlib.Data.Nat.Digits.Defs
import Mathlib.Data.List.Induction

/-! # Numerals

A text is read as a number exactly if it is a numeral within the bound: digits, as many as one likes, with or
without a plus sign before them. The fault of any other text is the one that is met first from left to right: a
character that is no digit, or the digit that makes the number too large.
-/

namespace Courier.Text

variable {max value : Nat} {c : Char} {chars digits good rest : List Char}
  {outcome : Except DecimalFault Nat}

/-- The number that digits stand for, with the ones in the last place. -/
def numberOf (digits : List Char) : Nat :=
  Nat.ofDigits 10 (digits.reverse.map fun c => c.toNat - '0'.toNat)

def AllDigits (chars : List Char) : Prop := ∀ c ∈ chars, c.isDigit = true

theorem numberOf_concat (good : List Char) (c : Char) :
    numberOf (good ++ [c]) = numberOf good * 10 + (c.toNat - '0'.toNat) := by
  simp [numberOf, Nat.ofDigits_cons]
  omega

theorem numberOf_le_concat (good : List Char) (c : Char) : numberOf good ≤ numberOf (good ++ [c]) := by
  rw [numberOf_concat]
  omega

theorem AllDigits.concat (hgood : AllDigits good) (hc : c.isDigit = true) : AllDigits (good ++ [c]) := by
  intro d hd
  rcases List.mem_append.1 hd with hbefore | hlast
  · exact hgood d hbefore
  · rwa [List.mem_singleton.1 hlast]

theorem AllDigits.of_concat (h : AllDigits (good ++ [c])) : AllDigits good ∧ c.isDigit = true :=
  ⟨fun d hd => h d (List.mem_append_left _ hd), h c (by simp)⟩

theorem isDigit_iff : c.isDigit = true ↔ '0' ≤ c ∧ c ≤ '9' := by
  rw [Char.isDigit, Bool.and_eq_true, decide_eq_true_iff, decide_eq_true_iff]
  rfl

theorem digit?_of_isDigit (h : c.isDigit = true) : digit? c = some (c.toNat - '0'.toNat) :=
  if_pos (isDigit_iff.1 h)

theorem digit?_of_not_isDigit (h : c.isDigit = false) : digit? c = none := by
  apply if_neg
  rw [← isDigit_iff, h]
  exact Bool.false_ne_true

/-- What reading digits from left to right comes to, with the characters before the first fault. -/
inductive Scans (max : Nat) : List Char → Except DecimalFault Nat → Prop
  | number {digits : List Char} (hdigits : AllDigits digits) (hfits : numberOf digits ≤ max) :
      Scans max digits (.ok (numberOf digits))
  | invalidDigit {good rest : List Char} {c : Char} (hgood : AllDigits good)
      (hfits : numberOf good ≤ max) (hc : c.isDigit = false) : Scans max (good ++ c :: rest) (.error .invalidDigit)
  | tooLarge {good rest : List Char} {c : Char} (hgood : AllDigits (good ++ [c]))
      (hfits : numberOf good ≤ max) (hlarge : max < numberOf (good ++ [c])) :
      Scans max (good ++ c :: rest) (.error .tooLarge)

theorem readDigits_cons_of_isDigit (hc : c.isDigit = true) (good rest : List Char) :
    readDigits max (numberOf good) (c :: rest)
      = if max < numberOf (good ++ [c]) then .error .tooLarge
        else readDigits max (numberOf (good ++ [c])) rest := by
  rw [readDigits, digit?_of_isDigit hc, numberOf_concat]

theorem readDigits_cons_of_not_isDigit (hc : c.isDigit = false) (value : Nat) (rest : List Char) :
    readDigits max value (c :: rest) = .error .invalidDigit := by
  rw [readDigits, digit?_of_not_isDigit hc]

/-- Digits within the bound are read, and reading goes on behind them. -/
theorem readDigits_append (hgood : AllDigits good) (hfits : numberOf good ≤ max) (rest : List Char) :
    readDigits max 0 (good ++ rest) = readDigits max (numberOf good) rest := by
  -- from the last digit backwards, as the number read so far is that of a beginning
  induction good using List.reverseRecOn generalizing rest with
  | nil => rfl
  | append_singleton good c ih =>
    obtain ⟨hbefore, hc⟩ := hgood.of_concat
    rw [List.append_assoc, ih hbefore ((numberOf_le_concat good c).trans hfits), List.singleton_append,
      readDigits_cons_of_isDigit hc, if_neg (Nat.not_lt.2 hfits)]

theorem scans_readDigits (hgood : AllDigits good) (hfits : numberOf good ≤ max) (rest : List Char) :
    Scans max (good ++ rest) (readDigits max (numberOf good) rest) := by
  induction rest generalizing good with
  | nil =>
    rw [List.append_nil]
    exact .number hgood hfits
  | cons c rest ih =>
    cases hc : c.isDigit with
    | false =>
      rw [readDigits_cons_of_not_isDigit hc]
      exact .invalidDigit hgood hfits hc
    | true =>
      rw [readDigits_cons_of_isDigit hc]
      split
      · exact .tooLarge (hgood.concat hc) hfits ‹_›
      · rw [List.append_cons]
        exact ih (hgood.concat hc) (Nat.le_of_not_lt ‹_›)

theorem readDigits_eq_iff : readDigits max 0 digits = outcome ↔ Scans max digits outcome := by
  constructor
  · rintro rfl
    have hnone : AllDigits [] := fun c hc => absurd hc List.not_mem_nil
    exact scans_readDigits hnone (Nat.zero_le max) digits
  · rintro (⟨hdigits, hfits⟩ | ⟨hgood, hfits, hc⟩ | ⟨hgood, hfits, hlarge⟩)
    · have hread := readDigits_append hdigits hfits []
      rwa [List.append_nil] at hread
    · rw [readDigits_append hgood hfits, readDigits_cons_of_not_isDigit hc]
    · obtain ⟨hbefore, hc⟩ := hgood.of_concat
      rw [readDigits_append hbefore hfits, readDigits_cons_of_isDigit hc, if_pos hlarge]

/-- What reading a text as a number comes to. A sign stands before digits, and alone it is no digit. -/
inductive Reads (max : Nat) : List Char → Except DecimalFault Nat → Prop
  | empty : Reads max [] (.error .empty)
  | signAlone : Reads max ['+'] (.error .invalidDigit)
  | signed {digits : List Char} {outcome : Except DecimalFault Nat} (hne : digits ≠ [])
      (hscans : Scans max digits outcome) : Reads max ('+' :: digits) outcome
  | unsigned {digits : List Char} {outcome : Except DecimalFault Nat} (hne : digits ≠ [])
      (hsign : digits.head? ≠ some '+') (hscans : Scans max digits outcome) : Reads max digits outcome

theorem readDecimalChars_signed (hne : digits ≠ []) :
    readDecimalChars max ('+' :: digits) = readDigits max 0 digits := by
  cases digits with
  | nil => exact absurd rfl hne
  | cons c rest => rfl

theorem readDecimalChars_unsigned (hne : digits ≠ []) (hsign : digits.head? ≠ some '+') :
    readDecimalChars max digits = readDigits max 0 digits := by
  cases digits with
  | nil => exact absurd rfl hne
  | cons c rest =>
    have hc : c ≠ '+' := by simpa using hsign
    rw [readDecimalChars]
    all_goals simp [hc]

theorem readDecimalChars_eq_iff : readDecimalChars max chars = outcome ↔ Reads max chars outcome := by
  constructor
  · rintro rfl
    rcases chars with _ | ⟨c, rest⟩
    · exact .empty
    · by_cases hc : c = '+'
      · subst hc
        by_cases hrest : rest = []
        · rw [hrest]
          exact .signAlone
        · rw [readDecimalChars_signed hrest]
          exact .signed hrest (readDigits_eq_iff.1 rfl)
      · have hsign : (c :: rest).head? ≠ some '+' := by simpa using hc
        rw [readDecimalChars_unsigned (by simp) hsign]
        exact .unsigned (by simp) hsign (readDigits_eq_iff.1 rfl)
  · rintro (_ | _ | ⟨hne, hscans⟩ | ⟨hne, hsign, hscans⟩)
    · rfl
    · rfl
    · rw [readDecimalChars_signed hne, readDigits_eq_iff.2 hscans]
    · rw [readDecimalChars_unsigned hne hsign, readDigits_eq_iff.2 hscans]

inductive Numeral : List Char → Nat → Prop
  | unsigned {digits : List Char} (hne : digits ≠ []) (hdigits : AllDigits digits) :
      Numeral digits (numberOf digits)
  | signed {digits : List Char} (hne : digits ≠ []) (hdigits : AllDigits digits) :
      Numeral ('+' :: digits) (numberOf digits)

theorem AllDigits.head?_ne_sign (h : AllDigits digits) : digits.head? ≠ some '+' := by
  intro hhead
  exact absurd (h '+' (List.mem_of_head? hhead)) (by decide)

/-- A text is read as a number exactly if it is a numeral within the bound. -/
theorem readDecimalChars_eq_ok_iff :
    readDecimalChars max chars = .ok value ↔ Numeral chars value ∧ value ≤ max := by
  rw [readDecimalChars_eq_iff]
  constructor
  · rintro (_ | _ | ⟨hne, ⟨hdigits, hfits⟩⟩ | ⟨hne, -, ⟨hdigits, hfits⟩⟩)
    · exact ⟨.signed hne hdigits, hfits⟩
    · exact ⟨.unsigned hne hdigits, hfits⟩
  · rintro ⟨⟨hne, hdigits⟩ | ⟨hne, hdigits⟩, hfits⟩
    · exact .unsigned hne hdigits.head?_ne_sign (.number hdigits hfits)
    · exact .signed hne (.number hdigits hfits)

theorem Numeral.ne_nil (h : Numeral chars value) : chars ≠ [] := by
  cases h with
  | unsigned hne _ => exact hne
  | signed _ _ => exact List.cons_ne_nil _ _

theorem Numeral.isDigit_or_eq_sign (h : Numeral chars value) (hc : c ∈ chars) : c.isDigit = true ∨ c = '+' := by
  cases h with
  | unsigned _ hdigits => exact .inl (hdigits c hc)
  | signed _ hdigits =>
    rcases List.mem_cons.1 hc with hsign | hdigit
    · exact .inr hsign
    · exact .inl (hdigits c hdigit)

theorem Numeral.unique {other : Nat} (h : Numeral chars value) (hother : Numeral chars other) :
    value = other := by
  have hread := readDecimalChars_eq_ok_iff.2 ⟨h, Nat.le_max_left value other⟩
  exact Except.ok.inj (hread.symm.trans (readDecimalChars_eq_ok_iff.2 ⟨hother, Nat.le_max_right value other⟩))

end Courier.Text
