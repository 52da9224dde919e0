import Courier.Proofs.Text.Json

/-! # Objects in JSON are read back

A reader for objects in JSON whose fields hold texts, natural numbers and lists of them, with spaces wherever JSON
has them. An object that is written is read back field by field (`readObject?_renderObject`), whatever its names
and texts are, and it stays on one line (`newline_notMem_renderObject`).
-/

namespace Courier.Text.Json

variable {α : Type} {read : List Char → Option (α × List Char)} {c closing : Char}

def skipSpace (chars : List Char) : List Char := chars.dropWhile isSpace

/-- Reads parts with commas between them up to the closing character, one part at least. A part is read with what is
left behind it. -/
def readParts (read : List Char → Option (α × List Char)) (closing : Char) (chars : List Char) :
    Option (List α × List Char) :=
  match read chars with
  | none => none
  | some (part, left) =>
    match skipSpace left with
    | [] => none
    | c :: rest =>
      if c = closing then some ([part], rest)
      else if c = ',' then
        -- a part that takes no characters is none
        if _h : rest.length < chars.length then
          (readParts read closing rest).map fun (parts, rest) => (part :: parts, rest)
        else none
      else none
termination_by chars.length

def readSequence (read : List Char → Option (α × List Char)) (closing : Char) (chars : List Char) :
    Option (List α × List Char) :=
  match skipSpace chars with
  | [] => none
  | c :: rest => if c = closing then some ([], rest) else readParts read closing (c :: rest)

/-- Reads a natural number, without zeros before it. -/
def readNumber (chars : List Char) : Option (Nat × List Char) :=
  match skipSpace chars with
  | [] => none
  | c :: rest =>
    if c = '0' then some (0, rest)
    else if c.isDigit then
      some (Nat.ofDigitChars 10 ((c :: rest).takeWhile Char.isDigit) 0, (c :: rest).dropWhile Char.isDigit)
    else none

def readText (chars : List Char) : Option (String × List Char) :=
  match skipSpace chars with
  | '"' :: rest => (readChars rest).map fun (text, rest) => (String.ofList text, rest)
  | _ => none

def readScalar (chars : List Char) : Option (Scalar × List Char) :=
  match skipSpace chars with
  | '"' :: rest => (readText ('"' :: rest)).map fun (text, rest) => (.text text, rest)
  | '[' :: rest => (readSequence readNumber ']' rest).map fun (numbers, rest) => (.numbers numbers, rest)
  | chars => (readNumber chars).map fun (number, rest) => (.number number, rest)

def readField (chars : List Char) : Option ((String × Scalar) × List Char) :=
  match readText chars with
  | none => none
  | some (name, rest) =>
    match skipSpace rest with
    | ':' :: rest => (readScalar rest).map fun (value, rest) => ((name, value), rest)
    | _ => none

def readObject? (json : String) : Option (List (String × Scalar)) :=
  match skipSpace json.toList with
  | '\x7b' :: rest =>
    match readSequence readField '\x7d' rest with
    | some (fields, left) => if left.all isSpace then some fields else none
    | none => none
  | _ => none

def Follows (c : Char) : Prop := c = ',' ∨ c = ']' ∨ c = '\x7d'

/-- A reader takes just what is written of a value, whatever stands behind it. -/
def ReadsBack (read : List Char → Option (α × List Char)) (written : List Char) (value : α) : Prop :=
  ∀ c rest, Follows c → read (written ++ c :: rest) = some (value, c :: rest)

theorem skipSpace_cons (h : isSpace c = false) (rest : List Char) : skipSpace (c :: rest) = c :: rest :=
  List.dropWhile_cons_of_neg (by simp [h])

theorem isSpace_of_isDigit (h : c.isDigit = true) : isSpace c = false := by
  rw [Bool.eq_false_iff]
  intro hspace
  simp only [isSpace, Bool.or_eq_true, decide_eq_true_eq] at hspace
  rcases hspace with ((rfl | rfl) | rfl) | rfl <;> cases h

theorem Follows.not_space (h : Follows c) : isSpace c = false := by
  rcases h with rfl | rfl | rfl <;> decide

theorem Follows.not_digit (h : Follows c) : c.isDigit = false := by
  rcases h with rfl | rfl | rfl <;> decide

/-- Parts are read one after another, each up to the comma or the closing character behind it. -/
theorem readParts_intercalate (write : α → List Char) (hfollows : Follows closing) (hcomma : closing ≠ ',')
    {parts : List α} (hne : parts ≠ []) (hread : ∀ part ∈ parts, ReadsBack read (write part) part)
    (rest : List Char) :
    readParts read closing ([','].intercalate (parts.map write) ++ closing :: rest) = some (parts, rest) := by
  induction parts with
  | nil => exact absurd rfl hne
  | cons part parts ih =>
    have hpart := hread part (by simp)
    cases parts with
    | nil =>
      rw [readParts]
      simp [hpart closing rest hfollows, skipSpace_cons hfollows.not_space]
    | cons next parts =>
      have hrest := ih (by simp) fun part hmem => hread part (List.mem_cons_of_mem _ hmem)
      rw [List.map_cons] at hrest
      rw [List.map_cons, List.map_cons, List.intercalate_cons_cons, List.append_assoc, List.append_assoc,
        List.singleton_append, readParts, hpart ',' _ (.inl rfl)]
      simp [skipSpace_cons (show isSpace ',' = false from rfl), hcomma.symm, hrest]
      omega

theorem readSequence_intercalate (write : α → List Char) (hfollows : Follows closing) (hcomma : closing ≠ ',')
    (hread : ∀ part, ReadsBack read (write part) part)
    (hopens : ∀ part, ∃ c rest, write part = c :: rest ∧ isSpace c = false ∧ c ≠ closing) (parts : List α)
    (rest : List Char) :
    readSequence read closing ([','].intercalate (parts.map write) ++ closing :: rest) = some (parts, rest) := by
  cases parts with
  | nil => simp [readSequence, skipSpace_cons hfollows.not_space]
  | cons part parts =>
    have hparts := readParts_intercalate write hfollows hcomma (List.cons_ne_nil part parts)
      (fun part _ => hread part) rest
    obtain ⟨c, chars, hwrite, hspace, hopen⟩ := hopens part
    obtain ⟨behind, hbehind⟩ : ∃ behind,
        [','].intercalate ((part :: parts).map write) ++ closing :: rest = c :: behind := by
      cases parts with
      | nil => simp [hwrite]
      | cons next parts => simp [List.intercalate_cons_cons, hwrite]
    rw [hbehind] at hparts ⊢
    rw [readSequence, skipSpace_cons hspace]
    simp [hopen, hparts]

theorem isDigit_of_mem_toDigits {n : Nat} (h : c ∈ Nat.toDigits 10 n) : c.isDigit = true :=
  Nat.isDigit_of_mem_toDigits (by decide) (by decide) h

/-- A number begins with a digit, which is zero only if the number is. -/
theorem exists_toDigits_cons (n : Nat) :
    ∃ c rest, Nat.toDigits 10 n = c :: rest ∧ c.isDigit = true ∧ (c = '0' → n = 0) := by
  induction n using Nat.strongRecOn with
  | ind n ih =>
    rw [Nat.toDigits_eq_if (by decide)]
    have hsmall : ∀ n < 10, n.digitChar.isDigit = true ∧ (n.digitChar = '0' → n = 0) := by decide
    split
    · exact ⟨n.digitChar, [], rfl, hsmall n ‹_›⟩
    · obtain ⟨c, rest, hdigits, hdigit, hzero⟩ := ih (n / 10) (by omega)
      refine ⟨c, rest ++ [(n % 10).digitChar], by rw [hdigits, List.cons_append], hdigit, fun hc => ?_⟩
      have := hzero hc
      omega

theorem readsBack_number (n : Nat) : ReadsBack readNumber (toString n).toList n := by
  intro c rest hfollows
  rw [Nat.toString_eq_ofList_toDigits, String.toList_ofList]
  obtain ⟨first, digits, hdigits, hdigit, hzero⟩ := exists_toDigits_cons n
  have hall : ∀ d ∈ Nat.toDigits 10 n, d.isDigit = true := fun d => isDigit_of_mem_toDigits
  by_cases hfirst : first = '0'
  · obtain rfl := hzero hfirst
    rfl
  · have htake : (Nat.toDigits 10 n ++ c :: rest).takeWhile Char.isDigit = Nat.toDigits 10 n := by
      rw [List.takeWhile_append_of_pos hall]
      simp [hfollows.not_digit]
    have hdrop : (Nat.toDigits 10 n ++ c :: rest).dropWhile Char.isDigit = c :: rest := by
      rw [List.dropWhile_append_of_pos hall]
      simp [hfollows.not_digit]
    have hvalue := Nat.ofDigitChars_ten_toDigits (n := n)
    rw [hdigits] at htake hdrop hvalue ⊢
    rw [readNumber, List.cons_append, skipSpace_cons (isSpace_of_isDigit hdigit)]
    rw [List.cons_append] at htake hdrop
    simp only [if_neg hfirst, hdigit, if_true, htake, hdrop, hvalue]

theorem exists_toList_toString (n : Nat) : ∃ c rest, (toString n).toList = c :: rest ∧ c.isDigit = true := by
  rw [Nat.toString_eq_ofList_toDigits, String.toList_ofList]
  obtain ⟨c, rest, hdigits, hdigit, -⟩ := exists_toDigits_cons n
  exact ⟨c, rest, hdigits, hdigit⟩

theorem toList_quote (text : String) : (quote text).toList = '"' :: (text.toList.flatMap escapeChar ++ ['"']) := by
  rw [quote, String.toList_ofList, List.cons_append]

theorem readText_quote (text : String) (rest : List Char) :
    readText ((quote text).toList ++ rest) = some (text, rest) := by
  have hread := readChars_flatMap_escapeChar text.toList rest
  rw [toList_quote, List.cons_append, readText, skipSpace_cons rfl]
  simp [hread]

theorem toList_render_numbers (numbers : List Nat) : (Scalar.numbers numbers).render.toList
    = '[' :: ([','].intercalate (numbers.map fun n => (toString n).toList) ++ [']']) := by
  rw [Scalar.render, String.toList_append, String.toList_append, String.toList_intercalate, List.map_map]
  rfl

theorem readsBack_scalar (value : Scalar) : ReadsBack readScalar value.render.toList value := by
  intro c rest hfollows
  cases value with
  | text text =>
    have hread := readText_quote text (c :: rest)
    rw [toList_quote, List.cons_append] at hread
    rw [Scalar.render, toList_quote, List.cons_append, readScalar, skipSpace_cons rfl]
    simp only [hread]
    rfl
  | number n =>
    have hread := readsBack_number n c rest hfollows
    obtain ⟨first, digits, hdigits, hdigit⟩ := exists_toList_toString n
    rw [hdigits, List.cons_append] at hread
    rw [Scalar.render, hdigits, List.cons_append, readScalar, skipSpace_cons (isSpace_of_isDigit hdigit)]
    split
    · rename_i hquote
      obtain ⟨rfl, -⟩ := List.cons.inj hquote
      cases hdigit
    · rename_i hbracket
      obtain ⟨rfl, -⟩ := List.cons.inj hbracket
      cases hdigit
    · rw [hread]
      rfl
  | numbers numbers =>
    have hopens (n : Nat) : ∃ c rest, (toString n).toList = c :: rest ∧ isSpace c = false ∧ c ≠ ']' := by
      obtain ⟨c, rest, hdigits, hdigit⟩ := exists_toList_toString n
      exact ⟨c, rest, hdigits, isSpace_of_isDigit hdigit, by rintro rfl; cases hdigit⟩
    have hread := readSequence_intercalate _ (.inr (.inl rfl)) (by decide) readsBack_number hopens numbers (c :: rest)
    rw [toList_render_numbers, List.cons_append, List.append_assoc, List.singleton_append, readScalar,
      skipSpace_cons rfl]
    simp only [hread]
    rfl

def writeField (field : String × Scalar) : String := quote field.1 ++ ":" ++ field.2.render

theorem readsBack_field (field : String × Scalar) : ReadsBack readField (writeField field).toList field := by
  intro c rest hfollows
  have hvalue := readsBack_scalar field.2 c rest hfollows
  have hcolon : ":".toList = [':'] := rfl
  rw [writeField, String.toList_append, String.toList_append, List.append_assoc, List.append_assoc, readField,
    readText_quote, hcolon, List.singleton_append]
  simp only [skipSpace_cons (show isSpace ':' = false from rfl), hvalue]
  rfl

theorem renderObject_eq (fields : List (String × Scalar)) :
    (renderObject fields).toList
      = '\x7b' :: ([','].intercalate (fields.map fun field => (writeField field).toList) ++ ['\x7d']) := by
  rw [renderObject, String.toList_append, String.toList_append, String.toList_intercalate, List.map_map]
  rfl

theorem readObject?_renderObject (fields : List (String × Scalar)) :
    readObject? (renderObject fields) = some fields := by
  have hopens (field : String × Scalar) :
      ∃ c rest, (writeField field).toList = c :: rest ∧ isSpace c = false ∧ c ≠ '\x7d' := by
    rw [writeField, String.toList_append, String.toList_append, toList_quote]
    exact ⟨_, _, rfl, rfl, by decide⟩
  have hread := readSequence_intercalate _ (.inr (.inr rfl)) (by decide) readsBack_field hopens fields []
  rw [readObject?, renderObject_eq, skipSpace_cons rfl]
  simp only [hread]
  rfl

theorem newline_notMem_escapeChar (c : Char) : '\n' ∉ escapeChar c := by
  have hcontrols : ∀ n < 0x20, '\n' ∉ hex2 n := by decide
  rw [escapeChar]
  split_ifs with hquote hbackslash hb ht hn hf hr hcontrol
  any_goals decide
  · simpa using hcontrols _ hcontrol
  · simpa using Ne.symm hn

theorem newline_notMem_quote (text : String) : '\n' ∉ (quote text).toList := by
  have hescaped : '\n' ∉ text.toList.flatMap escapeChar := by
    rw [List.mem_flatMap]
    rintro ⟨c, -, hc⟩
    exact newline_notMem_escapeChar c hc
  simp [toList_quote, hescaped]

theorem newline_notMem_toString (n : Nat) : '\n' ∉ (toString n).toList := by
  rw [Nat.toString_eq_ofList_toDigits, String.toList_ofList]
  intro hmem
  cases isDigit_of_mem_toDigits hmem

theorem newline_notMem_intercalate {parts : List (List Char)} (h : ∀ part ∈ parts, '\n' ∉ part) :
    '\n' ∉ [','].intercalate parts := by
  induction parts with
  | nil => simp
  | cons part parts ih =>
    have hrest := ih fun part hmem => h part (List.mem_cons_of_mem _ hmem)
    cases parts with
    | nil => simpa using h part
    | cons next parts =>
      rw [List.intercalate_cons_cons]
      simp [h part, hrest]

theorem newline_notMem_render (value : Scalar) : '\n' ∉ value.render.toList := by
  cases value with
  | text text => exact newline_notMem_quote text
  | number n => exact newline_notMem_toString n
  | numbers numbers =>
    have hnumbers := newline_notMem_intercalate
      (List.forall_mem_map.2 fun n (_ : n ∈ numbers) => newline_notMem_toString n)
    rw [toList_render_numbers]
    simpa using hnumbers

theorem newline_notMem_field (field : String × Scalar) : '\n' ∉ (writeField field).toList := by
  simp [writeField, newline_notMem_quote, newline_notMem_render]

theorem newline_notMem_renderObject (fields : List (String × Scalar)) : '\n' ∉ (renderObject fields).toList := by
  have hfields := newline_notMem_intercalate
    (List.forall_mem_map.2 fun field (_ : field ∈ fields) => newline_notMem_field field)
  simp [renderObject_eq, hfields]

end Courier.Text.Json
