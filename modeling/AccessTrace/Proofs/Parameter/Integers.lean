/-
Module: AccessTrace.Proofs.Parameter.Integers
Purpose: The texts that are read as integers, and what blanks and capital letters around them do.
Main exports:
  Text.trim_surrounded, Text.exists_surrounded, Numeral.Signed, Numeral.integer?_eq_some_iff,
  Parameter.lowerLetter_cases
-/
import Mathlib
import AccessTrace.Proofs.Parameter.Numerals

namespace AccessTrace

open AccessTrace.Text

/-!
An integer is written as digits with perhaps a sign in front, and it is read
from such a text only.  Blanks around a text are trimmed off.  Small letters in
the place of capital ones change no digit, no sign and no blank, and make none
of them from another character.
-/

namespace Text

/-! ### Blanks around a text -/

/-- A text of blanks. -/
def Blanks (text : List Char) : Prop :=
  ∀ c ∈ text, isBlank c = true

instance (text : List Char) : Decidable (Blanks text) :=
  decidable_of_iff (isBlankText text = true) List.all_eq_true

theorem Blanks.nil : Blanks [] := by
  intro c member
  cases member

theorem Blanks.append {first second : List Char} (one : Blanks first) (two : Blanks second) :
    Blanks (first ++ second) := by
  intro c member
  exact (List.mem_append.1 member).elim (one c) (two c)

/-- A text that neither starts nor ends with a blank, with at least one character. -/
structure Solid (text : List Char) : Prop where
  first : ∃ c rest, text = c :: rest ∧ isBlank c = false
  last : ∃ rest c, text = rest ++ [c] ∧ isBlank c = false

/-- A text without any blank. -/
theorem solid_of_all {text : List Char} (some : text ≠ [])
    (solid : ∀ c ∈ text, isBlank c = false) : Solid text := by
  obtain ⟨c, rest, begins⟩ := List.exists_cons_of_ne_nil some
  obtain ⟨front, d, ends⟩ := (List.eq_nil_or_concat' text).resolve_left some
  constructor
  · exact ⟨c, rest, begins, solid c (by simp [begins])⟩
  · exact ⟨front, d, ends, solid d (by simp [ends])⟩

theorem trimEnd_append {text blanks : List Char} (blank : Blanks blanks) :
    trimEnd (text ++ blanks) = trimEnd text := by
  rw [trimEnd, List.reverse_append, List.dropWhile_append_of_pos, trimEnd]
  intro c member
  exact blank c (List.mem_reverse.1 member)

/-- The blanks around a text are trimmed off, and nothing else is. -/
theorem trim_surrounded {before core after : List Char} (blankBefore : Blanks before)
    (solid : Solid core) (blankAfter : Blanks after) : trim (before ++ core ++ after) = core := by
  obtain ⟨c, rest, begins, noBlank⟩ := solid.first
  obtain ⟨front, d, ends, noBlankEnd⟩ := solid.last
  have start : trimStart (before ++ core ++ after) = core ++ after := by
    rw [trimStart, List.append_assoc, List.dropWhile_append_of_pos blankBefore, begins,
      List.cons_append, List.dropWhile_cons_of_neg (by simp [noBlank])]
  rw [trim, start, trimEnd_append blankAfter, trimEnd, ends, List.reverse_append,
    List.reverse_singleton, List.singleton_append,
    List.dropWhile_cons_of_neg (by simp [noBlankEnd])]
  simp

theorem blanks_takeWhile (text : List Char) : Blanks (text.takeWhile isBlank) :=
  fun _ member => List.mem_takeWhile_imp member

theorem exists_trimEnd (text : List Char) :
    ∃ after, text = trimEnd text ++ after ∧ Blanks after := by
  refine ⟨(text.reverse.takeWhile isBlank).reverse, ?_, ?_⟩
  · rw [trimEnd, ← List.reverse_append, List.takeWhile_append_dropWhile, List.reverse_reverse]
  · intro c member
    exact blanks_takeWhile _ c (List.mem_reverse.1 member)

/-- A text is its trimmed part with blanks around it. -/
theorem exists_surrounded (text : List Char) :
    ∃ before after, text = before ++ trim text ++ after ∧ Blanks before ∧ Blanks after := by
  obtain ⟨after, ends, blank⟩ := exists_trimEnd (trimStart text)
  refine ⟨text.takeWhile isBlank, after, ?_, blanks_takeWhile text, blank⟩
  rw [trim, List.append_assoc, ← ends, trimStart, List.takeWhile_append_dropWhile]

/-- What is left of a trimmed text does not start with a blank. -/
theorem isBlank_head_trim {text rest : List Char} {c : Char} (trimmed : trim text = c :: rest) :
    isBlank c = false := by
  obtain ⟨after, ends, -⟩ := exists_trimEnd (trimStart text)
  have first := List.head?_dropWhile_not isBlank text
  rw [trim] at trimmed
  rw [trimmed] at ends
  rw [trimStart] at ends
  rw [ends] at first
  exact first

/-! ### Integers -/

namespace Numeral

/-- What stands in front of the digits of an integer. -/
inductive Sign where
  | absent
  | plus
  | minus
deriving DecidableEq, Repr

/-- The characters of a sign. -/
def Sign.text : Sign → List Char
  | .absent => []
  | .plus => ['+']
  | .minus => ['-']

/-- A number with a sign in front of it. -/
def Sign.apply : Sign → Nat → Int
  | .absent, n => n
  | .plus, n => n
  | .minus, n => -n

/-- The number that a digit stands for. -/
def digitValue (c : Char) : Nat := c.toNat - '0'.toNat

/-- An integer as it can be written: one or more digits, with perhaps a sign in
front of them.  Leading zeros are allowed. -/
structure Signed where
  sign : Sign
  digits : List Char
  digits_ne_nil : digits ≠ []
  isDigit : ∀ c ∈ digits, c.isDigit = true

namespace Signed

/-- The text of a written integer. -/
def text (number : Signed) : List Char :=
  number.sign.text ++ number.digits

/-- The integer that is written: a digit counts ten times as much as the one behind it. -/
def value (number : Signed) : Int :=
  number.sign.apply (Nat.ofDigits 10 (number.digits.reverse.map digitValue))

theorem exists_first (number : Signed) :
    ∃ c rest, number.digits = c :: rest ∧ c.isDigit = true := by
  obtain ⟨c, rest, digits⟩ := List.exists_cons_of_ne_nil number.digits_ne_nil
  refine ⟨c, rest, digits, number.isDigit c ?_⟩
  rw [digits]
  exact List.mem_cons_self

/-- A written integer consists of digits, with perhaps a sign in front. -/
theorem mem_text {number : Signed} {c : Char} (member : c ∈ number.text) :
    c = '+' ∨ c = '-' ∨ c.isDigit = true := by
  rw [text, List.mem_append] at member
  rcases member with sign | digit
  · cases kind : number.sign with
    | absent => simp [kind, Sign.text] at sign
    | plus => exact .inl (by simpa [kind, Sign.text] using sign)
    | minus => exact .inr (.inl (by simpa [kind, Sign.text] using sign))
  · exact .inr (.inr (number.isDigit c digit))

theorem isBlank_of_mem_text {number : Signed} {c : Char} (member : c ∈ number.text) :
    isBlank c = false := by
  rcases mem_text member with plus | minus | digit
  · rw [plus]
    decide
  · rw [minus]
    decide
  · exact isBlank_of_isDigit digit

theorem isLower_of_mem_text {number : Signed} {c : Char} (member : c ∈ number.text) :
    c.isLower = false := by
  rcases mem_text member with plus | minus | digit
  · rw [plus]
    decide
  · rw [minus]
    decide
  · rw [Bool.eq_false_iff]
    intro lower
    have range := isDigit_iff_toNat.1 digit
    rw [isLower_iff_toNat] at lower
    omega

theorem solid_text (number : Signed) : Solid number.text := by
  have some : number.text ≠ [] := by
    simp [text, number.digits_ne_nil]
  exact solid_of_all some fun _ => isBlank_of_mem_text

end Signed

theorem ofDigitChars_eq_ofDigits (digits : List Char) :
    Nat.ofDigitChars 10 digits 0 = Nat.ofDigits 10 (digits.reverse.map digitValue) := by
  induction digits using List.reverseRecOn with
  | nil => rfl
  | append_singleton digits c ih =>
      rw [Nat.ofDigitChars_append, ih, List.reverse_append, List.reverse_singleton,
        List.singleton_append, List.map_cons, Nat.ofDigits_cons, Nat.ofDigitChars_cons]
      exact Nat.add_comm _ _

/-- Digits are read as the number that they are written for. -/
theorem digits?_eq_some_iff {text : List Char} {n : Nat} :
    digits? text = some n ↔ text ≠ [] ∧ (∀ c ∈ text, c.isDigit = true) ∧
      n = Nat.ofDigits 10 (text.reverse.map digitValue) := by
  unfold digits?
  rw [ofDigitChars_eq_ofDigits]
  by_cases digits : text ≠ [] ∧ ∀ c ∈ text, c.isDigit = true
  · have none : (text.isEmpty || !text.all Char.isDigit) = false := by
      simpa using digits
    rw [none, if_neg Bool.false_ne_true, Option.some_inj]
    exact ⟨fun same => ⟨digits.1, digits.2, same.symm⟩, fun found => found.2.2.symm⟩
  · have none : (text.isEmpty || !text.all Char.isDigit) = true := by
      by_contra fails
      apply digits
      simpa using fails
    rw [if_pos none]
    constructor
    · intro found
      cases found
    · rintro ⟨some, all, -⟩
      exact absurd ⟨some, all⟩ digits

theorem Signed.integer?_text (number : Signed) : integer? number.text = some number.value := by
  obtain ⟨sign, digits, some, all⟩ := number
  have read := digits?_eq_some_iff.2 ⟨some, all, rfl⟩
  cases sign with
  | absent =>
      change integer? digits = _
      unfold integer?
      split
      · exact absurd (all '+' List.mem_cons_self) (by decide)
      · exact absurd (all '-' List.mem_cons_self) (by decide)
      · rw [read]
        rfl
  | plus =>
      change (digits? digits).map Int.ofNat = _
      rw [read]
      rfl
  | minus =>
      change ((digits? digits).map fun n => -Int.ofNat n) = _
      rw [read]
      rfl

/-- An integer is read from the texts that it can be written as, and from no others. -/
theorem integer?_eq_some_iff {text : List Char} {n : Int} :
    integer? text = some n ↔ ∃ number : Signed, text = number.text ∧ n = number.value := by
  constructor
  · intro read
    have written (sign : Sign) {digits : List Char} {m : Nat} (found : digits? digits = some m) :
        ∃ number : Signed, sign.text ++ digits = number.text ∧ sign.apply m = number.value := by
      obtain ⟨some, all, rfl⟩ := digits?_eq_some_iff.1 found
      exact ⟨⟨sign, digits, some, all⟩, rfl, rfl⟩
    unfold integer? at read
    split at read
    · obtain ⟨m, found, rfl⟩ := Option.map_eq_some_iff.1 read
      exact written .plus found
    · obtain ⟨m, found, rfl⟩ := Option.map_eq_some_iff.1 read
      exact written .minus found
    · obtain ⟨m, found, rfl⟩ := Option.map_eq_some_iff.1 read
      exact written .absent found
  · rintro ⟨number, rfl, rfl⟩
    exact number.integer?_text

end Numeral
end Text

/-! ### Capital letters -/

namespace Parameter

/-- A character is its own small letter, or has one that is a small letter. -/
theorem lowerLetter_cases (c : Char) : lowerLetter c = c ∨ (lowerLetter c).isLower = true := by
  unfold lowerLetter
  split
  · exact .inr (by decide)
  · by_cases upper : c.isUpper = true
    · exact .inr (by simp [Char.isAlpha, upper])
    · exact .inl (Char.toLower_eq_of_not_isUpper upper)

theorem lowerLetter_of_not_isLower {c : Char} (noLetter : (lowerLetter c).isLower = false) :
    lowerLetter c = c :=
  (lowerLetter_cases c).resolve_right (by simp [noLetter])

end Parameter
end AccessTrace
