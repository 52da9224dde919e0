import Courier.Proofs.Cli.Stages
import Courier.Proofs.Text.Numerals
import Courier.Proofs.Text.Trimming

/-! # Timeouts that are accepted

A text is a timeout exactly if, without the blanks around it, it is a numeral of at least one and at most 64
bits with the spelling of a unit behind it. No text can be read in two ways, although one spelling is the end of
another one. Whatever else is given as the timeout of a frame to send, the program ends with the exit code for
wrong usage (`timeouts_have_one_reading`).
-/

namespace Courier.Cli

open Courier.Text (AllBlank BlankInside NoBlank Padded)

def TimeUnit.spellings : TimeUnit → List String
  | seconds => ["", "s"]
  | millis => ["ms"]

structure Amount where
  numeral : String
  suffix : String
  unit : TimeUnit
  count : Nat
deriving DecidableEq

namespace Amount

structure ReadFrom (amount : Amount) (text : String) : Prop where
  padded : Padded text (amount.numeral ++ amount.suffix)
  spelled : amount.suffix ∈ amount.unit.spellings
  isNumeral : Text.Numeral amount.numeral.toList amount.count
  positive : 1 ≤ amount.count
  fits : amount.count ≤ largestCount

def span (amount : Amount) : Span :=
  match amount.unit with
  | .seconds => .ofSeconds amount.count
  | .millis => .ofMillis amount.count

theorem span_unit (amount : Amount) : amount.unit.span amount.count = amount.span := by
  rw [span]
  cases amount.unit <;> rfl

end Amount

variable {text suffix : String} {unit : TimeUnit} {amount : Amount} {number : List Char} {count : Nat}

namespace TimeUnit

/-- Neither sign nor digits are part of a unit, so the unit begins where they end. -/
theorem split_append (hnumber : Text.Numeral number count) (hsuffix : suffix ∈ unit.spellings) :
    split (number ++ suffix.toList) = (number, unit) := by
  have hclean : ∀ c ∈ number.reverse, c ≠ 's' ∧ c ≠ 'm' := by
    intro c hc
    rcases hnumber.isDigit_or_eq_sign (List.mem_reverse.1 hc) with hdigit | rfl
    · constructor <;> rintro rfl <;> cases hdigit
    · decide
  obtain ⟨number, rfl⟩ : ∃ backwards, number = backwards.reverse := ⟨number.reverse, by simp⟩
  rw [List.reverse_reverse] at hclean
  -- no unit, `s` or `ms`, read from the end
  have hspelled : unit = seconds ∧ suffix = "" ∨ unit = seconds ∧ suffix = "s" ∨
      unit = millis ∧ suffix = "ms" := by
    cases unit <;> simpa [spellings] using hsuffix
  rcases hspelled with ⟨rfl, rfl⟩ | ⟨rfl, rfl⟩ | ⟨rfl, rfl⟩
  · cases number with
    | nil => rfl
    | cons c rest => simp [split, (hclean c (by simp)).1]
  · cases number with
    | nil => rfl
    | cons c rest => simp [split, (hclean c (by simp)).2]
  · simp [split]

theorem exists_split (chars : List Char) :
    ∃ suffix ∈ (split chars).2.spellings, chars = (split chars).1 ++ suffix.toList := by
  rw [split]
  split
  · rename_i number hreverse
    exact ⟨"ms", by simp [spellings], by simpa using congrArg List.reverse hreverse⟩
  · rename_i number _ hreverse
    exact ⟨"s", by simp [spellings], by simpa using congrArg List.reverse hreverse⟩
  · exact ⟨"", by simp [spellings], by simp⟩

theorem noBlank_append (hnumber : Text.Numeral number count) (hsuffix : suffix ∈ unit.spellings) :
    NoBlank (number ++ suffix.toList) := by
  intro c hc
  rcases List.mem_append.1 hc with hnumeral | hunit
  · rcases hnumber.isDigit_or_eq_sign hnumeral with hdigit | rfl
    · obtain ⟨hlow, hhigh⟩ := Text.isDigit_iff.1 hdigit
      have hfirst : 48 ≤ c.toNat := hlow
      have hlast : c.toNat ≤ 57 := hhigh
      exact Text.isBlank_of_visible (by omega) (by omega)
    · decide
  · have hletters : NoBlank suffix.toList := by
      cases unit <;> simp only [spellings, List.mem_cons, List.not_mem_nil, or_false] at hsuffix
      · rcases hsuffix with rfl | rfl <;> decide
      · subst hsuffix
        decide
    exact hletters c hunit

end TimeUnit

namespace Amount

theorem ReadFrom.self (hspelled : amount.suffix ∈ amount.unit.spellings)
    (hread : Text.readDecimalChars largestCount amount.numeral.toList = .ok amount.count)
    (hpositive : 1 ≤ amount.count) : amount.ReadFrom (amount.numeral ++ amount.suffix) := by
  obtain ⟨hnumeral, hfits⟩ := Text.readDecimalChars_eq_ok_iff.1 hread
  exact ⟨⟨"", "", by decide, by decide, by simp⟩, hspelled, hnumeral, hpositive, hfits⟩

theorem ReadFrom.trimChars (h : amount.ReadFrom text) :
    Text.trimChars text.toList = amount.numeral.toList ++ amount.suffix.toList := by
  have hcore := TimeUnit.noBlank_append h.isNumeral h.spelled
  rw [← String.toList_append] at hcore ⊢
  exact h.padded.trimChars hcore

theorem ReadFrom.unique {left right : Amount} (hleft : left.ReadFrom text) (hright : right.ReadFrom text) :
    left = right := by
  have hsame := hleft.trimChars.symm.trans hright.trimChars
  have hsplit := TimeUnit.split_append hleft.isNumeral hleft.spelled
  rw [hsame, TimeUnit.split_append hright.isNumeral hright.spelled] at hsplit
  obtain ⟨hnumeral, hunit⟩ := Prod.mk.inj hsplit
  rw [hnumeral] at hsame
  have hcount := hleft.isNumeral
  rw [← hnumeral] at hcount
  obtain ⟨leftNumeral, leftSuffix, leftUnit, leftCount⟩ := left
  obtain ⟨rightNumeral, rightSuffix, rightUnit, rightCount⟩ := right
  obtain rfl : rightNumeral = leftNumeral := String.toList_injective hnumeral
  obtain rfl : leftSuffix = rightSuffix := String.toList_injective (List.append_cancel_left hsame)
  obtain rfl : rightUnit = leftUnit := hunit
  obtain rfl : leftCount = rightCount := hcount.unique hright.isNumeral
  rfl

theorem ReadFrom.parseTimeout (h : amount.ReadFrom text) : parseTimeout text = .ok amount.span := by
  have hne : (amount.numeral.toList ++ amount.suffix.toList).isEmpty = false := by
    simp [h.isNumeral.ne_nil]
  have hread := Text.readDecimalChars_eq_ok_iff.2 ⟨h.isNumeral, h.fits⟩
  obtain ⟨less, hless⟩ := Nat.exists_eq_succ_of_ne_zero (Nat.ne_of_gt h.positive)
  rw [Cli.parseTimeout, ← span_unit]
  simp only [h.trimChars, hne, TimeUnit.split_append h.isNumeral h.spelled, hread, hless]
  rfl

end Amount

theorem exists_amount {span : Span} (h : parseTimeout text = .ok span) :
    ∃ amount : Amount, amount.ReadFrom text ∧ span = amount.span := by
  obtain ⟨suffix, hspelled, hsplit⟩ := TimeUnit.exists_split (Text.trimChars text.toList)
  rw [parseTimeout] at h
  dsimp only at h
  split at h
  · cases h
  · split at h
    · cases h
    · cases h
    · rename_i hzero hread
      obtain ⟨hnumeral, hfits⟩ := Text.readDecimalChars_eq_ok_iff.1 hread
      have hpadded := Text.padded_trimChars text
      rw [hsplit, String.ofList_append, String.ofList_toList] at hpadded
      refine ⟨⟨String.ofList (TimeUnit.split (Text.trimChars text.toList)).1, suffix, _, _⟩,
        ⟨hpadded, hspelled, ?_, Nat.one_le_iff_ne_zero.2 hzero, hfits⟩, ?_⟩
      · simpa using hnumeral
      · rw [← Amount.span_unit, ← Except.ok.inj h]

theorem parseTimeout_append {before after : String} (hbefore : AllBlank before.toList)
    (hafter : AllBlank after.toList) (text : String) :
    parseTimeout (before ++ text ++ after) = parseTimeout text := by
  simp only [parseTimeout, String.toList_append, Text.trimChars_append hbefore hafter]

theorem parseTimeout_of_blankInside (h : BlankInside text) : ∃ fault, parseTimeout text = .error fault := by
  cases hparse : parseTimeout text with
  | error fault => exact ⟨fault, rfl⟩
  | ok span =>
    obtain ⟨amount, hread, -⟩ := exists_amount hparse
    obtain ⟨c, hmem, hblank⟩ := h.exists_mem
    rw [hread.trimChars] at hmem
    cases (TimeUnit.noBlank_append hread.isNumeral hread.spelled c hmem).symm.trans hblank

/-- The port can be wrong as well, which is found first; both are wrong usage, and nothing has happened yet. -/
theorem Send.run_of_refused_timeout {arguments : SendArguments} {fault : TimeoutFault}
    (htext : arguments.timeout = some text) (hfault : parseTimeout text = .error fault) (clock : UInt64)
    (host : Host) (format : Format) :
    ∃ message, Send.run clock host arguments format = (.error ⟨Exit.usage, message⟩, host) := by
  have hfails : Send.Fails clock host arguments .timeout ⟨Exit.usage, fault.message⟩ := .timeout htext hfault
  rcases Send.run_cases clock host arguments format with
    ⟨-, -, -, -, -, -, -, hclear, -⟩ | ⟨stage, failure, later, hrun, hfirst, hearly⟩
  · exact absurd hfails (hclear .timeout _ (by decide))
  · have hrank : stage.rank ≤ 1 := Nat.not_lt.1 fun hlater => hfirst.earlier .timeout _ hlater hfails
    rw [hrun, hearly (by omega)]
    cases hfirst.fails with
    | port hport => exact ⟨_, rfl⟩
    | timeout hother herror => exact ⟨_, rfl⟩
    | payload | encoding | opening | sending => exact absurd hrank (by decide)

/-- A timeout is accepted exactly if it can be read as a number of seconds or milliseconds, and the span is that
number of them. There is one way to read it at most. Blanks around a text do not matter, and one inside of it
is always refused. A program that is to send a frame with a timeout that is refused ends with exit code 64; it
prints nothing to standard output and leaves its surroundings as they were. -/
theorem timeouts_have_one_reading (text : String) :
    (∀ span, parseTimeout text = .ok span ↔ ∃ amount : Amount, amount.ReadFrom text ∧ span = amount.span) ∧
      (∀ left right : Amount, left.ReadFrom text → right.ReadFrom text → left = right) ∧
      (∀ before after : String, AllBlank before.toList → AllBlank after.toList →
        parseTimeout (before ++ text ++ after) = parseTimeout text) ∧
      (BlankInside text → ∃ fault, parseTimeout text = .error fault) ∧
      ∀ fault, parseTimeout text = .error fault → ∀ environmentPort words invocation arguments,
        Invocation.parse environmentPort words = .ok invocation → invocation.command = .send arguments →
        arguments.timeout = some text → ∀ around : Surroundings,
          let (ending, after) := run around environmentPort words
          ending.exit = 64 ∧ ending.output.stdout = [] ∧ after = around := by
  refine ⟨fun span => ⟨exists_amount, ?_⟩, fun _ _ => Amount.ReadFrom.unique,
    fun _ _ hbefore hafter => parseTimeout_append hbefore hafter text, parseTimeout_of_blankInside, ?_⟩
  · rintro ⟨amount, hread, rfl⟩
    exact hread.parseTimeout
  · intro fault hfault environmentPort words invocation arguments hparse hcommand htext around
    obtain ⟨message, hrun⟩ := Send.run_of_refused_timeout htext hfault around.clock around.host
      (invocation.format.getD defaultFormat)
    simp only [run, hparse, perform, hcommand, hrun]
    trivial

/-- A number of seconds, a number of milliseconds with a sign and zeros, an ideographic space before it and a
line feed behind it, and a number that a space divides from its unit. -/
theorem timeouts_have_one_reading_of_three :
    parseTimeout "5s" = .ok ⟨5000000000⟩ ∧ parseTimeout "\u3000+0150ms\n" = .ok ⟨150000000⟩ ∧
      (∀ amount : Amount, amount.ReadFrom "+0150ms" → amount = ⟨"+0150", "ms", .millis, 150⟩) ∧
      (run { host := Host.isolated } none ["send", "dump:x", "--timeout", "5 s"]).1.exit = 64 := by
  obtain ⟨hseconds, -⟩ := timeouts_have_one_reading "5s"
  obtain ⟨hmillis, hone, haround, -⟩ := timeouts_have_one_reading "+0150ms"
  obtain ⟨-, -, -, hinside, hrefused⟩ := timeouts_have_one_reading "5 s"
  have hfive : Amount.ReadFrom ⟨"5", "s", .seconds, 5⟩ "5s" := .self (by decide) (by decide) (by decide)
  have hread : Amount.ReadFrom ⟨"+0150", "ms", .millis, 150⟩ "+0150ms" :=
    .self (by decide) (by decide) (by decide)
  obtain ⟨fault, hfault⟩ := hinside ⟨['5'], ' ', ['s'], by decide⟩
  refine ⟨(hseconds _).2 ⟨_, hfive, rfl⟩,
    (haround "\u3000" "\n" (by decide) (by decide)).trans ((hmillis _).2 ⟨_, hread, rfl⟩),
    fun amount hother => hone _ _ hother hread, ?_⟩
  have hparse : Invocation.parse none ["send", "dump:x", "--timeout", "5 s"]
      = .ok { command := .send { port := "dump:x", timeout := some "5 s" } } := rfl
  exact (hrefused fault hfault none _ _ _ hparse rfl rfl { host := Host.isolated }).1

end Courier.Cli
