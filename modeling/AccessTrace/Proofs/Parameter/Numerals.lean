/-
Module: AccessTrace.Proofs.Parameter.Numerals
Purpose: The numeral of an integer reads back as that integer, whichever way it is read.
Main exports:
  Numeral.integer?_ofInt, Parameter.readSize_ofInt, Parameter.readCount_ofInt
-/
import Mathlib
import AccessTrace.Parameter.Texts
import AccessTrace.Proofs.TraceFile.Line

namespace AccessTrace

open AccessTrace.Text

/-!
The numeral of an integer is digits with perhaps a minus sign in front.  None
of these characters is white space, the letter of a unit or a capital letter,
so that every reader comes to the digits and finds the integer in them.
-/

namespace Text

/-- A text without blanks stays as it is when it is trimmed. -/
theorem trim_of_solid {text : List Char} (solid : ∀ c ∈ text, isBlank c = false) :
    trim text = text := by
  have keep {text : List Char} (solid : ∀ c ∈ text, isBlank c = false) :
      text.dropWhile isBlank = text := by
    cases text with
    | nil => rfl
    | cons c rest => rw [List.dropWhile_cons_of_neg (by simp [solid c List.mem_cons_self])]
  rw [trim, trimStart, keep solid, trimEnd, keep, List.reverse_reverse]
  intro c member
  exact solid c (List.mem_reverse.1 member)

namespace Numeral

/-- A numeral is what an integer is shown as. -/
theorem ofList_ofInt (value : Int) : String.ofList (ofInt value) = toString value := by
  cases value with
  | ofNat n => rfl
  | negSucc n => exact String.ofList_cons

/-- A numeral is digits, with perhaps a minus sign in front. -/
theorem mem_ofInt {value : Int} {c : Char} (member : c ∈ ofInt value) :
    c = '-' ∨ c.isDigit = true := by
  cases value with
  | ofNat n => exact .inr (isDigit_of_mem_ofNat member)
  | negSucc n =>
      rcases List.mem_cons.1 member with sign | digit
      · exact .inl sign
      · exact .inr (isDigit_of_mem_ofNat digit)

theorem isBlank_of_mem_ofInt {value : Int} {c : Char} (member : c ∈ ofInt value) :
    isBlank c = false := by
  rcases mem_ofInt member with sign | digit
  · rw [sign]
    decide
  · exact isBlank_of_isDigit digit

/-- The last character of a numeral is a digit. -/
theorem exists_digit_last (value : Int) :
    ∃ digit rest, (ofInt value).reverse = digit :: rest ∧ digit.isDigit = true := by
  have last (n : Nat) :
      ∃ digit rest, (ofNat n).reverse = digit :: rest ∧ digit.isDigit = true := by
    obtain ⟨digit, rest, reversed⟩ :=
      List.exists_cons_of_ne_nil (List.reverse_ne_nil_iff.2 (ofNat_ne_nil n))
    have member : digit ∈ (ofNat n).reverse := by
      rw [reversed]
      exact List.mem_cons_self
    exact ⟨digit, rest, reversed, isDigit_of_mem_ofNat (List.mem_reverse.1 member)⟩
  cases value with
  | ofNat n => exact last n
  | negSucc n =>
      obtain ⟨digit, rest, reversed, isDigit⟩ := last (n + 1)
      refine ⟨digit, rest ++ ['-'], ?_, isDigit⟩
      rw [ofInt, List.reverse_cons, reversed]
      rfl

/-- A numeral without a sign starts with a digit. -/
theorem not_sign_of_ofNat {n : Nat} {c : Char} {rest : List Char} (text : ofNat n = c :: rest) :
    c.isDigit = true := by
  apply isDigit_of_mem_ofNat
  rw [text]
  exact List.mem_cons_self

theorem integer?_ofInt (value : Int) : integer? (ofInt value) = some value := by
  cases value with
  | ofNat n =>
      have read := digits?_ofNat n
      change integer? (ofNat n) = _
      unfold integer?
      split
      · rename_i rest text
        exact absurd (not_sign_of_ofNat text) (by decide)
      · rename_i rest text
        exact absurd (not_sign_of_ofNat text) (by decide)
      · rw [read]
        rfl
  | negSucc n =>
      rw [ofInt, integer?, digits?_ofNat]
      rfl

end Numeral
end Text

namespace Text

theorem isUpper_iff_toNat {c : Char} : c.isUpper = true ↔ 65 ≤ c.toNat ∧ c.toNat ≤ 90 := by
  simp [Char.isUpper, UInt32.le_iff_toNat_le, ← Char.toNat_val]

theorem isLower_iff_toNat {c : Char} : c.isLower = true ↔ 97 ≤ c.toNat ∧ c.toNat ≤ 122 := by
  simp [Char.isLower, UInt32.le_iff_toNat_le, ← Char.toNat_val]

theorem isDigit_iff_toNat {c : Char} : c.isDigit = true ↔ 48 ≤ c.toNat ∧ c.toNat ≤ 57 :=
  Char.isDigit_iff_toNat

/-- A digit has one case. -/
theorem toLower_of_isDigit {c : Char} (digit : c.isDigit = true) : c.toLower = c := by
  have range := isDigit_iff_toNat.1 digit
  apply Char.toLower_eq_of_not_isUpper
  rw [isUpper_iff_toNat]
  omega

end Text

namespace Parameter

/-! ### Sizes and counts -/

/-- Outside the capital letters, to which the Kelvin sign belongs, a character
is its own small letter. -/
theorem lowerLetter_eq_self {c : Char} (noCapital : c.toNat < 65 ∨ 90 < c.toNat)
    (noKelvin : c.toNat ≠ 0x212A) : lowerLetter c = c := by
  rw [lowerLetter, if_neg (by simpa using noKelvin)]
  apply Char.toLower_eq_of_not_isUpper
  rw [isUpper_iff_toNat]
  omega

theorem lowerLetter_of_isDigit {c : Char} (digit : c.isDigit = true) : lowerLetter c = c := by
  have range := isDigit_iff_toNat.1 digit
  exact lowerLetter_eq_self (by omega) (by omega)

theorem lowerLetter_of_mem_ofInt {value : Int} {c : Char} (member : c ∈ Numeral.ofInt value) :
    lowerLetter c = c := by
  rcases Numeral.mem_ofInt member with sign | digit
  · rw [sign]
    decide
  · exact lowerLetter_of_isDigit digit

/-- No digit is the letter of a unit. -/
theorem ofLetter?_of_isDigit {c : Char} (digit : c.isDigit = true) :
    SizeUnit.ofLetter? c = none := by
  have letter (unit : SizeUnit) : unit.letter ≠ c := by
    rintro rfl
    cases unit <;> exact absurd digit (by decide)
  simp [SizeUnit.ofLetter?, letter]

theorem unitAtEnd?_ofInt (value : Int) : unitAtEnd? (Numeral.ofInt value).reverse = none := by
  obtain ⟨digit, rest, reversed, isDigit⟩ := Numeral.exists_digit_last value
  rw [reversed]
  unfold unitAtEnd?
  split
  · rename_i c rest text
    cases text
    exact absurd isDigit (by decide)
  · rename_i c rest notB text
    cases text
    exact ofLetter?_of_isDigit isDigit
  · rfl

theorem wideInteger?_ofInt {value : Int} (wide : isWide value = true) :
    wideInteger? (Numeral.ofInt value) = some value := by
  rw [wideInteger?, Numeral.integer?_ofInt]
  exact Option.filter_some_pos wide

theorem trim_ofInt (value : Int) : trim (Numeral.ofInt value) = Numeral.ofInt value :=
  trim_of_solid fun _ member => Numeral.isBlank_of_mem_ofInt member

/-- A numeral has no unit behind it. -/
theorem sizeInBytes?_ofInt {value : Int} (wide : isWide value = true) :
    sizeInBytes? (Numeral.ofInt value) = some value := by
  have lowered : (trim (Numeral.ofInt value)).map lowerLetter = Numeral.ofInt value := by
    rw [trim_ofInt]
    exact (List.map_congr_left fun c member => lowerLetter_of_mem_ofInt member).trans
      (List.map_id' _)
  rw [sizeInBytes?]
  simp only [lowered, unitAtEnd?_ofInt]
  exact wideInteger?_ofInt wide

theorem isWide_toInt (value : Int64) : isWide value.toInt = true := by
  have least := Int64.le_toInt value
  have greatest := Int64.toInt_lt value
  simp only [isWide, Bool.and_eq_true, decide_eq_true_eq]
  omega

/-- The numeral of an integer is read as the size of so many bytes. -/
theorem readSize_ofInt (field : Field) (value : Int64) :
    readSize field (String.ofList (Numeral.ofInt value.toInt)) =
      positive field (String.ofList (Numeral.ofInt value.toInt)) value.toInt := by
  rw [readSize, String.toList_ofList, sizeInBytes?_ofInt (isWide_toInt value)]

/-- The numeral of an integer is read as that count. -/
theorem readCount_ofInt (field : Field) (value : Int64) :
    readCount field (String.ofList (Numeral.ofInt value.toInt)) =
      positive field (String.ofList (Numeral.ofInt value.toInt)) value.toInt := by
  rw [readCount, String.toList_ofList, trim_ofInt, wideInteger?_ofInt (isWide_toInt value)]

end Parameter

end AccessTrace
