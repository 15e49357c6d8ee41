/-
Module: AccessTrace.Proofs.Json.Numbers
Purpose: JSON numbers as characters: they are read as they stand, and integers are exact.
Main exports:
  Json.Ends, Json.NumberText.print, Json.NumberText.WellFormed, Json.readScalar_print,
  Json.NumberText.ofInt, Json.word_ofInt, Json.signed_ofInt
-/
import Mathlib
import AccessTrace.Json.Decoder
import AccessTrace.Proofs.Binary64.Decimal

namespace AccessTrace

open AccessTrace.Text

namespace Json

/-!
A number in a text goes as far as its characters can belong to one, so what
stands behind it matters.  Digits, a fraction and an exponent are read one after
the other, each up to a character with which it cannot go on.
-/

/-! ### Digits in front of something else -/

/-- Whether a number can go on with a character. -/
def goesOn (c : Char) : Bool :=
  c.isDigit || c == '.' || c == 'e' || c == 'E'

/-- Whether a number that stands in front of a text is over. -/
def Ends (rest : List Char) : Prop :=
  ∀ c ∈ rest.head?, goesOn c = false

theorem ends_nil : Ends [] := by
  simp [Ends]

theorem ends_cons {c : Char} (stops : goesOn c = false) (rest : List Char) : Ends (c :: rest) := by
  rintro found ⟨⟩
  exact stops

theorem Ends.head {rest : List Char} (ends : Ends rest) {c : Char} (first : c ∈ rest.head?) :
    c.isDigit = false ∧ c ≠ '.' ∧ c ≠ 'e' ∧ c ≠ 'E' := by
  simpa [goesOn, and_assoc] using ends c first

theorem ne_of_isDigit {c : Char} (digit : c.isDigit = true) (other : Char)
    (noDigit : other.isDigit = false) : c ≠ other := by
  rintro rfl
  rw [digit] at noDigit
  cases noDigit

theorem readDigits_append {digits rest : List Char} (all : ∀ c ∈ digits, c.isDigit = true)
    (stops : ∀ c ∈ rest.head?, c.isDigit = false) :
    readDigits (digits ++ rest) = (digits, rest) := by
  obtain ⟨front, behind⟩ := Numeral.span_digits all stops
  rw [readDigits, front, behind]

/-! ### Numbers as characters -/

/-- Whether an exponent has digits, and nothing else. -/
def ExponentText.WellFormed (exponent : ExponentText) : Prop :=
  exponent.digits ≠ [] ∧ ∀ c ∈ exponent.digits, c.isDigit = true

namespace NumberText

/-- The characters of an exponent. -/
def printExponent : Option ExponentText → List Char
  | none => []
  | some exponent => 'e' :: (if exponent.negative then '-' else '+') :: exponent.digits

/-- The characters of a fraction. -/
def printFraction : List Char → List Char
  | [] => []
  | digit :: digits => '.' :: digit :: digits

/-- The characters of a number. -/
def print (text : NumberText) : List Char :=
  (if text.negative then ['-'] else []) ++ text.whole ++ printFraction text.fraction ++
    printExponent text.exponent

/-- Digits stand where they belong, and no zero stands in front of others. -/
structure WellFormed (text : NumberText) : Prop where
  whole : ∀ c ∈ text.whole, c.isDigit = true
  nonempty : text.whole ≠ []
  leading : ∀ rest, text.whole = '0' :: rest → rest = []
  fraction : ∀ c ∈ text.fraction, c.isDigit = true
  exponent : ∀ exponent ∈ text.exponent, exponent.WellFormed

section
variable {rest : List Char} (ends : Ends rest)
include ends

theorem readExponent_print (negative : Bool) (whole fraction : List Char)
    {exponent : Option ExponentText} (formed : ∀ found ∈ exponent, found.WellFormed) :
    readExponent { negative, whole, fraction } (printExponent exponent ++ rest) =
      (.number { negative, whole, fraction, exponent }, rest) := by
  cases exponent with
  | none =>
      rw [printExponent, List.nil_append]
      unfold readExponent
      split
      · exact absurd rfl (ends.head rfl).2.2.1
      · exact absurd rfl (ends.head rfl).2.2.2
      · rfl
  | some exponent =>
      obtain ⟨nonempty, all⟩ := formed exponent rfl
      have digits := readDigits_append all fun c first => (ends.head first).1
      obtain ⟨sign, digits⟩ := exponent
      cases sign with
      | false => simp_all [printExponent, readExponent]
      | true => simp_all [printExponent, readExponent]

/-- Neither a digit nor a point stands behind the digits of a fraction. -/
theorem head_printExponent (exponent : Option ExponentText) :
    ∀ c ∈ (printExponent exponent ++ rest).head?, c.isDigit = false ∧ c ≠ '.' := by
  cases exponent with
  | none =>
      intro c first
      obtain ⟨digit, point, -⟩ := ends.head first
      exact ⟨digit, point⟩
  | some exponent =>
      rintro c ⟨⟩
      decide

theorem readFraction_print (negative : Bool) (whole : List Char) {fraction : List Char}
    {exponent : Option ExponentText} (all : ∀ c ∈ fraction, c.isDigit = true)
    (formed : ∀ found ∈ exponent, found.WellFormed) :
    readFraction { negative, whole } (printFraction fraction ++ (printExponent exponent ++ rest)) =
      (.number { negative, whole, fraction, exponent }, rest) := by
  have behind := readExponent_print ends negative whole fraction formed
  have head := head_printExponent ends exponent
  cases fraction with
  | nil =>
      rw [printFraction, List.nil_append, ← behind]
      unfold readFraction
      split
      · exact absurd rfl (head _ (by simp_all)).2
      · rfl
  | cons digit fraction =>
      have digits := readDigits_append all fun c found => (head c found).1
      rw [printFraction, List.cons_append, readFraction, digits]
      exact behind

/-- A number is read to its end, and no further. -/
theorem readNumber_print {text : NumberText} (formed : text.WellFormed) :
    readNumber text.negative (text.whole ++
      (printFraction text.fraction ++ (printExponent text.exponent ++ rest))) =
      (.number text, rest) := by
  have behind := readFraction_print ends text.negative text.whole formed.fraction
    formed.exponent
  have stops : ∀ c ∈ (printFraction text.fraction ++ (printExponent text.exponent ++ rest)).head?,
      c.isDigit = false := by
    intro c head
    cases fraction : text.fraction with
    | nil =>
        rw [fraction] at head
        exact (head_printExponent ends text.exponent c head).1
    | cons digit digits =>
        rw [fraction] at head
        cases head
        decide
  rw [readNumber, readDigits_append formed.whole stops]
  split
  · rename_i equation
    exact absurd (congrArg Prod.fst equation) formed.nonempty
  · rename_i equation
    have leading := formed.leading _ (congrArg Prod.fst equation)
    exact absurd leading (List.cons_ne_nil _ _)
  · rename_i equation
    cases equation
    exact behind

end

end NumberText

theorem NumberText.WellFormed.exists_first {text : NumberText} (formed : text.WellFormed) :
    ∃ digit digits, text.whole = digit :: digits ∧ digit.isDigit = true := by
  obtain ⟨digit, digits, whole⟩ := List.exists_cons_of_ne_nil formed.nonempty
  refine ⟨digit, digits, whole, formed.whole digit ?_⟩
  rw [whole]
  exact List.mem_cons_self

theorem readScalar_of_isDigit {c : Char} (digit : c.isDigit = true) (rest : List Char) :
    readScalar (c :: rest) = readNumber false (c :: rest) := by
  have other := ne_of_isDigit digit
  rw [readScalar.eq_def]
  simp [other 'n' rfl, other 't' rfl, other 'f' rfl, other '-' rfl, other '"' rfl, digit]

theorem readScalar_print {text : NumberText} (formed : text.WellFormed) {rest : List Char}
    (ends : Ends rest) : readScalar (text.print ++ rest) = (.number text, rest) := by
  have behind := NumberText.readNumber_print ends formed
  rw [NumberText.print]
  simp only [List.append_assoc]
  cases sign : text.negative with
  | true =>
      rw [sign] at behind
      exact behind
  | false =>
      obtain ⟨digit, digits, whole, isDigit⟩ := formed.exists_first
      rw [sign, whole] at behind
      rw [whole, if_neg Bool.false_ne_true, List.nil_append, List.cons_append,
        readScalar_of_isDigit isDigit]
      exact behind

namespace NumberText

/-! ### Integers -/

/-- An integer as it is written. -/
def ofInt (value : Int) : NumberText where
  negative := value < 0
  whole := Numeral.ofNat value.natAbs

theorem print_ofInt (value : Int) : (ofInt value).print = Numeral.ofInt value := by
  cases value with
  | ofNat n => simp [print, ofInt, Numeral.ofInt, printFraction, printExponent]
  | negSucc n => simp [print, ofInt, Numeral.ofInt, printFraction, printExponent]

theorem wellFormed_ofInt (value : Int) : (ofInt value).WellFormed where
  whole _ := Numeral.isDigit_of_mem_ofNat
  nonempty := Numeral.ofNat_ne_nil _
  leading := Numeral.leading_ofNat _
  fraction := by simp [ofInt]
  exponent := by simp [ofInt]

/-- As long as 64 bits hold the number, all its digits count. -/
theorem appendDigits_of_lt {digits : List Char} {number : Nat}
    (lt : Nat.ofDigitChars 10 digits number < UInt64.size) :
    appendDigits number digits = (Nat.ofDigitChars 10 digits number, 0) := by
  induction digits generalizing number with
  | nil => rfl
  | cons digit digits ih =>
      have next : Nat.ofDigitChars 10 (digit :: digits) number =
          Nat.ofDigitChars 10 digits (Nat.ofDigitChars 10 [digit] number) :=
        Nat.ofDigitChars_append (l := [digit]) number
      rw [next] at lt ⊢
      have fits : Nat.ofDigitChars 10 [digit] number < UInt64.size := by
        refine lt_of_le_of_lt ?_ lt
        rw [Nat.ofDigitChars_eq_ofDigitChars_zero (l := digits)]
        exact Nat.le_add_right_of_le (Nat.le_mul_of_pos_left _ (Nat.pow_pos (by decide)))
      rw [appendDigits]
      simp only [if_pos fits]
      exact ih lt

/-- Integers of 64 bits are exact. -/
theorem value_ofInt {value : Int} (lt : value.natAbs < UInt64.size) :
    (ofInt value).value = .ok ((ofInt value).exact value.natAbs) := by
  have whole : Nat.ofDigitChars 10 (Numeral.ofNat value.natAbs) 0 = value.natAbs :=
    Nat.ofDigitChars_ten_toDigits
  have digits : appendDigits 0 (ofInt value).whole = (value.natAbs, 0) := by
    rw [← whole] at lt
    exact (appendDigits_of_lt lt).trans (by rw [whole])
  rw [NumberText.value, digits]
  rfl

theorem exact_ofInt_of_nonneg {value : Int} (nonneg : 0 ≤ value) :
    (ofInt value).exact value.natAbs = .natural (UInt64.ofNat value.natAbs) := by
  rw [exact, ofInt, decide_eq_false (not_lt.2 nonneg)]
  rfl

theorem exact_ofInt_of_neg {value : Int} (neg : value < 0) (least : -0x8000000000000000 ≤ value) :
    (ofInt value).exact value.natAbs = .negative (Int64.ofInt value) := by
  have range : 0 < value.natAbs ∧ value.natAbs ≤ 0x8000000000000000 := by omega
  have opposite : -(value.natAbs : Int) = value := by omega
  rw [exact, ofInt, decide_eq_true neg, opposite]
  simp only [Bool.not_true, Bool.false_eq_true, if_false, range, decide_true, Bool.and_self,
    if_true]

end NumberText

theorem word_ofInt (value : UInt64) : word (.number (.ofInt value.toNat)) = .ok value := by
  have lt : (value.toNat : Int).natAbs < UInt64.size := value.toNat_lt
  rw [word, NumberText.value_ofInt lt, NumberText.exact_ofInt_of_nonneg (Int.natCast_nonneg _),
    Int.natAbs_natCast, UInt64.ofNat_toNat]
  rfl

theorem signed_ofInt (value : Int64) : signed (.number (.ofInt value.toInt)) = .ok value := by
  have least : -0x8000000000000000 ≤ value.toInt := value.le_toInt
  have greatest : value.toInt < 0x8000000000000000 := value.toInt_lt
  have lt : value.toInt.natAbs < UInt64.size := by
    have : UInt64.size = 0x10000000000000000 := rfl
    omega
  rw [signed, NumberText.value_ofInt lt]
  rcases lt_or_ge value.toInt 0 with neg | nonneg
  · rw [NumberText.exact_ofInt_of_neg neg least, Int64.ofInt_toInt]
    rfl
  · rw [NumberText.exact_ofInt_of_nonneg nonneg]
    have word : (UInt64.ofNat value.toInt.natAbs).toNat = value.toInt.natAbs :=
      UInt64.toNat_ofNat_of_lt' lt
    have small : (UInt64.ofNat value.toInt.natAbs).toNat < 0x8000000000000000 := by omega
    show (if (UInt64.ofNat value.toInt.natAbs).toNat < 0x8000000000000000
      then Except.ok (Int64.ofInt (UInt64.ofNat value.toInt.natAbs).toNat)
      else Except.error Fault.mismatched) = Except.ok value
    rw [if_pos small, word, Int.natAbs_of_nonneg nonneg, Int64.ofInt_toInt]

end Json
end AccessTrace
