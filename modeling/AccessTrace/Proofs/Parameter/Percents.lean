/-
Module: AccessTrace.Proofs.Parameter.Percents
Purpose: Which texts are read as percentages, and as which numbers.
Main exports:
  Numeral.Decimal, Numeral.Decimal.value, Binary64.read?_text, Binary64.Stands,
  Parameter.readPercent_eq_ok_iff, Parameter.readPercent_eq_error_iff,
  Parameter.readPercent_ofInt
-/
import Mathlib
import AccessTrace.Proofs.Binary64.Arithmetic
import AccessTrace.Proofs.Binary64.Decimal
import AccessTrace.Proofs.Parameter.Integers

namespace AccessTrace

open AccessTrace.Text

/-!
A decimal number is written as digits with perhaps a point among them, a sign in
front and an exponent behind.  It has an exact value, and it is read as the
binary64 number nearest to that value.  The words for what has no digits are read
as well, but what they are read as is not finite, so that a percentage is a
decimal number in any case.
-/

/-! ### Decimal numbers as they can be written -/

namespace Text.Numeral

/-- An exponent as it can be written: a letter of either case and an integer. -/
structure Exponent where
  letter : Char
  power : Signed
  isLetter : letter = 'e' ∨ letter = 'E'

namespace Exponent

/-- The text of an exponent; there may be none. -/
def text : Option Exponent → List Char
  | none => []
  | some exponent => exponent.letter :: exponent.power.text

/-- The power of ten that an exponent stands for. -/
def value : Option Exponent → Int
  | none => 0
  | some exponent => exponent.power.value

end Exponent

/-- The text of a fraction; there may be none. -/
def fractionText : Option (List Char) → List Char
  | none => []
  | some digits => '.' :: digits

/-- A decimal number as it can be written.  The digits in front of the point may
be missing, and so may those behind it, but not both. -/
structure Decimal where
  sign : Sign
  whole : List Char
  fraction : Option (List Char)
  exponent : Option Exponent
  digits_ne_nil : whole ++ fraction.getD [] ≠ []
  isDigit : ∀ c ∈ whole ++ fraction.getD [], c.isDigit = true

namespace Decimal

/-- The text behind the sign. -/
def unsigned (decimal : Decimal) : List Char :=
  decimal.whole ++ fractionText decimal.fraction ++ Exponent.text decimal.exponent

/-- The text of a written decimal number. -/
def text (decimal : Decimal) : List Char :=
  decimal.sign.text ++ decimal.unsigned

/-- The digits in front of the point and those behind it. -/
def digits (decimal : Decimal) : List Char :=
  decimal.whole ++ decimal.fraction.getD []

/-- All digits without the point, as an integer. -/
def mantissa (decimal : Decimal) : Signed where
  sign := decimal.sign
  digits := decimal.digits
  digits_ne_nil := decimal.digits_ne_nil
  isDigit := decimal.isDigit

/-- The power of ten that the mantissa is multiplied with. -/
def scale (decimal : Decimal) : Int :=
  Exponent.value decimal.exponent - (decimal.fraction.getD []).length

/-- The number that is written, exactly. -/
def value (decimal : Decimal) : ℚ :=
  decimal.mantissa.value * 10 ^ decimal.scale

theorem isDigit_whole (decimal : Decimal) : ∀ c ∈ decimal.whole, c.isDigit = true :=
  fun c member => decimal.isDigit c (List.mem_append_left _ member)

theorem isDigit_fraction {decimal : Decimal} {fraction : List Char}
    (present : decimal.fraction = some fraction) : ∀ c ∈ fraction, c.isDigit = true := by
  intro c member
  apply decimal.isDigit c
  rw [present]
  exact List.mem_append_right _ member

/-- A decimal number without a sign starts with a digit or with the point. -/
theorem exists_first (decimal : Decimal) :
    ∃ c rest, decimal.unsigned = c :: rest ∧ (c.isDigit = true ∨ c = '.') := by
  cases whole : decimal.whole with
  | cons c rest =>
      have digit := decimal.isDigit_whole c (by simp [whole])
      exact ⟨c, _, by rw [unsigned, whole, List.append_assoc]; rfl, .inl digit⟩
  | nil =>
      cases fraction : decimal.fraction with
      | some digits =>
          exact ⟨'.', _, by rw [unsigned, whole, fraction]; rfl, .inr rfl⟩
      | none =>
          have none := decimal.digits_ne_nil
          rw [whole, fraction] at none
          exact absurd rfl none

end Decimal
end Text.Numeral

/-! ### Reading -/

namespace Binary64

open Text.Numeral

theorem readExponent?_eq_some_iff {text : List Char} {power : Int} :
    readExponent? text = some power ↔
      ∃ exponent, text = Exponent.text exponent ∧ power = Exponent.value exponent := by
  constructor
  · intro read
    unfold readExponent? at read
    split at read
    · cases read
      exact ⟨none, rfl, rfl⟩
    · obtain ⟨number, rfl, rfl⟩ := integer?_eq_some_iff.1 read
      exact ⟨some ⟨'e', number, .inl rfl⟩, rfl, rfl⟩
    · obtain ⟨number, rfl, rfl⟩ := integer?_eq_some_iff.1 read
      exact ⟨some ⟨'E', number, .inr rfl⟩, rfl, rfl⟩
    · cases read
  · rintro ⟨exponent, rfl, rfl⟩
    cases exponent with
    | none => rfl
    | some exponent =>
        obtain ⟨letter, power, rfl | rfl⟩ := exponent
        · exact power.integer?_text
        · exact power.integer?_text

/-- What a decimal number without its sign is read as. -/
def ofMagnitude (negative : Bool) (decimal : Decimal) : Binary64 :=
  ofDecimal negative (Nat.ofDigitChars 10 decimal.digits 0) decimal.scale

/-- No digit stands behind the digits of a fraction. -/
theorem head_exponentText (exponent : Option Exponent) :
    ∀ c ∈ (Exponent.text exponent).head?, c.isDigit = false := by
  cases exponent with
  | none => simp [Exponent.text]
  | some exponent =>
      obtain ⟨letter, power, rfl | rfl⟩ := exponent
      · rintro c ⟨⟩
        rfl
      · rintro c ⟨⟩
        rfl

theorem readMagnitude?_unsigned (negative : Bool) (decimal : Decimal) :
    readMagnitude? negative decimal.unsigned = some (ofMagnitude negative decimal) := by
  have power := readExponent?_eq_some_iff.2 ⟨decimal.exponent, rfl, rfl⟩
  have behind := head_exponentText decimal.exponent
  have digits := decimal.digits_ne_nil
  cases present : decimal.fraction with
  | some fraction =>
      have stops : ∀ c ∈ ('.' :: (fraction ++ Exponent.text decimal.exponent)).head?,
          c.isDigit = false := by
        rintro c ⟨⟩
        decide
      obtain ⟨whole, afterWhole⟩ := span_digits decimal.isDigit_whole stops
      obtain ⟨places, afterPlaces⟩ := span_digits (Decimal.isDigit_fraction present) behind
      rw [present] at digits
      have some : (decimal.whole.isEmpty && fraction.isEmpty) = false := by
        simpa using digits
      rw [Decimal.unsigned, present, List.append_assoc, fractionText, List.cons_append]
      simp only [readMagnitude?, whole, afterWhole, places, afterPlaces, some, power,
        Option.map_some, Bool.false_eq_true, if_false]
      rw [ofMagnitude, Decimal.digits, Decimal.scale, present]
      rfl
  | none =>
      obtain ⟨whole, afterWhole⟩ := span_digits decimal.isDigit_whole behind
      rw [present] at digits
      have some : decimal.whole.isEmpty = false := by
        simpa using digits
      have noPoint : ∀ rest, Exponent.text decimal.exponent ≠ '.' :: rest := by
        intro rest point
        rw [point] at power
        cases power
      rw [Decimal.unsigned, present, fractionText, List.append_nil]
      simp only [readMagnitude?, whole, afterWhole, some, power, Option.map_some,
        Bool.false_eq_true, if_false]
      simp [ofMagnitude, Decimal.digits, Decimal.scale, present]

theorem exists_decimal_of_readMagnitude? (sign : Sign) {negative : Bool} {text : List Char}
    {number : Binary64} (read : readMagnitude? negative text = some number) :
    ∃ decimal : Decimal, decimal.sign = sign ∧ text = decimal.unsigned ∧
      number = ofMagnitude negative decimal := by
  have cut := List.takeWhile_append_dropWhile (p := Char.isDigit) (l := text)
  have digits (text : List Char) : ∀ c ∈ text.takeWhile Char.isDigit, c.isDigit = true :=
    fun c member => List.mem_takeWhile_imp member
  unfold readMagnitude? at read
  dsimp only at read
  split at read
  · rename_i rest point
    split at read
    · cases read
    · rename_i some
      obtain ⟨power, found, rfl⟩ := Option.map_eq_some_iff.1 read
      obtain ⟨exponent, behind, rfl⟩ := readExponent?_eq_some_iff.1 found
      have places := List.takeWhile_append_dropWhile (p := Char.isDigit) (l := rest)
      refine ⟨⟨sign, text.takeWhile Char.isDigit, rest.takeWhile Char.isDigit, exponent,
        ?_, ?_⟩, rfl, ?_, rfl⟩
      · simpa using some
      · intro c member
        exact (List.mem_append.1 member).elim (digits text c) (digits rest c)
      · rw [Decimal.unsigned, fractionText, List.append_assoc, List.cons_append, ← behind, places,
          ← point, cut]
  · split at read
    · cases read
    · rename_i some
      obtain ⟨power, found, rfl⟩ := Option.map_eq_some_iff.1 read
      obtain ⟨exponent, behind, rfl⟩ := readExponent?_eq_some_iff.1 found
      refine ⟨⟨sign, text.takeWhile Char.isDigit, none, exponent, ?_, ?_⟩, rfl, ?_, ?_⟩
      · simpa using some
      · simpa using digits text
      · rw [Decimal.unsigned, fractionText, List.append_nil, ← behind, cut]
      · simp [ofMagnitude, Decimal.digits, Decimal.scale]

/-! ### Signs and words -/

theorem readUnsigned?_unsigned (negative : Bool) (decimal : Decimal) :
    readUnsigned? negative decimal.unsigned = some (ofMagnitude negative decimal) := by
  obtain ⟨first, rest, begins, plain⟩ := decimal.exists_first
  -- The words for what has no digits begin with another character.
  have noWord (word : String) (c : Char) (head : word.toList.head? = some c)
      (other : c ≠ '.' ∧ c.isDigit = false) :
      String.ofList (decimal.unsigned.map Char.toLower) ≠ word := by
    rintro rfl
    rw [begins, String.toList_ofList, List.map_cons, List.head?_cons, Option.some_inj] at head
    subst head
    rcases plain with digit | rfl
    · rw [toLower_of_isDigit digit, digit] at other
      cases other.2
    · exact other.1 rfl
  have infinite := noWord "inf" 'i' rfl (by decide)
  have infinity := noWord "infinity" 'i' rfl (by decide)
  have nan := noWord "nan" 'n' rfl (by decide)
  simp only [readUnsigned?, infinite, infinity, nan, decide_false, Bool.or_false,
    Bool.false_eq_true, if_false]
  exact readMagnitude?_unsigned negative decimal

/-- The words for what has no digits give no finite number. -/
theorem readMagnitude?_of_finite {negative : Bool} {text : List Char} {number : Binary64}
    (read : readUnsigned? negative text = some number) (finite : number.isFinite = true) :
    readMagnitude? negative text = some number := by
  unfold readUnsigned? at read
  dsimp only at read
  split_ifs at read
  · cases read
    cases finite
  · cases read
    cases finite
  · exact read

/-- What a decimal number is read as. -/
def ofWritten (decimal : Decimal) : Binary64 :=
  ofMagnitude (decimal.sign = .minus) decimal

theorem read?_text (decimal : Decimal) : read? decimal.text = some (ofWritten decimal) := by
  have behind := readUnsigned?_unsigned (decimal.sign = .minus) decimal
  rw [ofWritten, ← behind, Decimal.text]
  cases sign : decimal.sign with
  | plus => rfl
  | minus => rfl
  | absent =>
      obtain ⟨first, rest, begins, plain⟩ := decimal.exists_first
      rw [Sign.text, List.nil_append, begins]
      unfold read?
      split
      · rename_i text
        cases text
        exact absurd plain (by decide)
      · rename_i text
        cases text
        exact absurd plain (by decide)
      · rfl

/-- Only a decimal number is read as a finite number. -/
theorem exists_decimal_of_read? {text : List Char} {number : Binary64}
    (read : read? text = some number) (finite : number.isFinite = true) :
    ∃ decimal : Decimal, text = decimal.text ∧ number = ofWritten decimal := by
  have written (sign : Sign) {text : List Char}
      (found : readUnsigned? (sign = .minus) text = some number) :
      ∃ decimal : Decimal, sign.text ++ text = decimal.text ∧ number = ofWritten decimal := by
    obtain ⟨decimal, rfl, rfl, rfl⟩ :=
      exists_decimal_of_readMagnitude? sign (readMagnitude?_of_finite found finite)
    exact ⟨decimal, rfl, rfl⟩
  unfold read? at read
  split at read
  · exact written .plus read
  · exact written .minus read
  · exact written .absent read

/-! ### The number that is read -/

/-- A decimal number stands for the number nearest to its value, with its sign. -/
structure Stands (decimal : Decimal) (number : Binary64) : Prop where
  rounds : Rounds number decimal.value
  sign : number.isNegative = decide (decimal.sign = .minus)

theorem Stands.unique {decimal : Decimal} {first second : Binary64} (one : Stands decimal first)
    (other : Stands decimal second) : first = second :=
  eq_of_toRat one.rounds.finite other.rounds.finite
    (one.rounds.value.trans other.rounds.value.symm) (one.sign.trans other.sign.symm)

theorem mantissa_value (decimal : Decimal) :
    decimal.mantissa.value =
      withSign (decimal.sign = .minus) (Nat.ofDigitChars 10 decimal.digits 0) := by
  rw [ofDigitChars_eq_ofDigits, Signed.value, Decimal.mantissa]
  cases decimal.sign <;> rfl

/-- A decimal number is read as the number nearest to a ratio that has its value. -/
theorem exists_ratio_of_written (decimal : Decimal) :
    ∃ num den, 0 < den ∧ ofWritten decimal = ofRatio (decimal.sign = .minus) num den ∧
      decimal.value = withSign (decimal.sign = .minus) num / (den * unitsOfOne) := by
  obtain ⟨num, den, hd, ratio⟩ := exists_ratio (Nat.ofDigitChars 10 decimal.digits 0) decimal.scale
  refine ⟨num, den, hd, ofDecimal_eq_ofRatio _ hd ratio, ?_⟩
  rw [← div_div, eq_div_iff unitsOfOne_cast_pos.ne', Decimal.value, mantissa_value]
  cases decide (decimal.sign = .minus)
  · simpa [withSign] using ratio
  · simpa [withSign, neg_div] using ratio

theorem isFinite_ofWritten_iff (decimal : Decimal) :
    (ofWritten decimal).isFinite = true ↔ |decimal.value| < limit := by
  obtain ⟨num, den, hd, same, value⟩ := exists_ratio_of_written decimal
  rw [same]
  exact isFinite_ofRatio_iff _ hd value

theorem stands_ofWritten {decimal : Decimal} (small : |decimal.value| < limit) :
    Stands decimal (ofWritten decimal) := by
  have finite := (isFinite_ofWritten_iff decimal).2 small
  obtain ⟨num, den, hd, same, value⟩ := exists_ratio_of_written decimal
  rw [same] at finite ⊢
  exact ⟨⟨finite, toRat_ofRatio _ hd value finite⟩, isNegative_ofRatio _ _ _⟩

end Binary64

/-! ### Percentages -/

namespace Text.Numeral.Decimal

/-- A text that is a decimal number, with perhaps blanks around it. -/
def WrittenIn (decimal : Decimal) (text : String) : Prop :=
  ∃ before after, text.toList = before ++ decimal.text ++ after ∧ Blanks before ∧ Blanks after

theorem isBlank_of_mem_text {decimal : Decimal} {c : Char} (member : c ∈ decimal.text) :
    isBlank c = false := by
  have ofMantissa {c : Char} (found : c ∈ decimal.sign.text ++ decimal.digits) :
      isBlank c = false := by
    have inMantissa : c ∈ decimal.mantissa.text := found
    exact Signed.isBlank_of_mem_text inMantissa
  rw [text, unsigned, List.mem_append, List.mem_append, List.mem_append] at member
  rcases member with sign | (whole | fraction) | exponent
  · exact ofMantissa (List.mem_append_left _ sign)
  · exact ofMantissa (List.mem_append_right _ (List.mem_append_left _ whole))
  · cases present : decimal.fraction with
    | none => simp [present, fractionText] at fraction
    | some digits =>
        rw [present] at fraction
        rcases List.mem_cons.1 fraction with rfl | digit
        · decide
        · exact isBlank_of_isDigit (isDigit_fraction present c digit)
  · cases present : decimal.exponent with
    | none => simp [present, Exponent.text] at exponent
    | some found =>
        rw [present] at exponent
        rcases List.mem_cons.1 exponent with rfl | power
        · rcases found.isLetter with small | capital
          · rw [small]
            decide
          · rw [capital]
            decide
        · exact Signed.isBlank_of_mem_text power

theorem text_ne_nil (decimal : Decimal) : decimal.text ≠ [] := by
  obtain ⟨c, rest, begins, -⟩ := decimal.exists_first
  rw [text, begins]
  simp

theorem writtenIn_iff {decimal : Decimal} {text : String} :
    decimal.WrittenIn text ↔ trim text.toList = decimal.text := by
  constructor
  · rintro ⟨before, after, around, blankBefore, blankAfter⟩
    have solid := solid_of_all decimal.text_ne_nil fun _ => isBlank_of_mem_text
    rw [around, trim_surrounded blankBefore solid blankAfter]
  · intro trimmed
    obtain ⟨before, after, around, blankBefore, blankAfter⟩ := exists_surrounded text.toList
    exact ⟨before, after, trimmed ▸ around, blankBefore, blankAfter⟩

/-- An integer as a decimal number. -/
def ofInt (value : Int) : Decimal where
  sign := if value < 0 then .minus else .absent
  whole := Numeral.ofNat value.natAbs
  fraction := none
  exponent := none
  digits_ne_nil := by simpa using ofNat_ne_nil value.natAbs
  isDigit := by simpa using fun c => isDigit_of_mem_ofNat

theorem text_ofInt (value : Int) : (ofInt value).text = Numeral.ofInt value := by
  cases value with
  | ofNat n =>
      have natural : ¬ (n : Int) < 0 := by omega
      simp [text, unsigned, ofInt, natural, Sign.text, fractionText, Exponent.text, Numeral.ofInt]
  | negSucc n =>
      simp [text, unsigned, ofInt, Sign.text, fractionText, Exponent.text, Numeral.ofInt]

end Text.Numeral.Decimal

theorem Binary64.ofWritten_ofInt (value : Int) : ofWritten (.ofInt value) = ofInt value := by
  have ratio : (Nat.ofDigitChars 10 (Numeral.ofNat value.natAbs) 0 : ℚ) * 10 ^ (0 : Int) *
      unitsOfOne = (value.natAbs * unitsOfOne : Nat) / (1 : Nat) := by
    simp [Numeral.ofNat]
  have sign : decide ((Numeral.Decimal.ofInt value).sign = .minus) = decide (value < 0) := by
    by_cases negative : value < 0 <;> simp [Numeral.Decimal.ofInt, negative]
  rw [ofWritten, ofMagnitude, sign, ofInt, ← ofDecimal_eq_ofRatio _ Nat.one_pos ratio]
  simp [Numeral.Decimal.ofInt, Numeral.Decimal.digits, Numeral.Decimal.scale,
    Numeral.Exponent.value]

namespace Parameter

open Binary64 Text.Numeral

section
variable {field : Field} {text : String}

/-- A decimal number is read as the number that it stands for, if that is finite. -/
theorem readPercent_of_writtenIn {decimal : Decimal} (written : decimal.WrittenIn text) :
    readPercent field text =
      if |decimal.value| < limit then .ok (ofWritten decimal)
      else .error (.notANumber field text) := by
  have finite := isFinite_ofWritten_iff decimal
  rw [readPercent, Decimal.writtenIn_iff.1 written, read?_text]
  by_cases small : |decimal.value| < limit
  · rw [Option.filter_some_pos (finite.2 small), if_pos small]
  · rw [Option.filter_some_neg (by simpa using mt finite.1 small), if_neg small]

/-- What is read as a percentage is a decimal number. -/
theorem exists_writtenIn_of_readPercent {number : Binary64}
    (read : readPercent field text = .ok number) :
    ∃ decimal : Decimal, decimal.WrittenIn text := by
  unfold readPercent at read
  split at read
  · rename_i found
    obtain ⟨accepted, finite⟩ := Option.filter_eq_some_iff.1 found
    obtain ⟨decimal, trimmed, -⟩ := exists_decimal_of_read? accepted finite
    exact ⟨decimal, Decimal.writtenIn_iff.2 trimmed⟩
  · cases read

theorem eq_notANumber_of_readPercent {error : ParameterError}
    (refused : readPercent field text = .error error) : error = .notANumber field text := by
  unfold readPercent at refused
  split at refused
  · cases refused
  · cases refused
    rfl

/-- A text is read as a percentage exactly if it is a decimal number below the limit, and then
as the number that stands for it. -/
theorem readPercent_eq_ok_iff {number : Binary64} :
    readPercent field text = .ok number ↔
      ∃ decimal : Decimal, decimal.WrittenIn text ∧ |decimal.value| < limit ∧
        Stands decimal number := by
  constructor
  · intro read
    obtain ⟨decimal, written⟩ := exists_writtenIn_of_readPercent read
    rw [readPercent_of_writtenIn written] at read
    split_ifs at read with small
    cases read
    exact ⟨decimal, written, small, stands_ofWritten small⟩
  · rintro ⟨decimal, written, small, stands⟩
    rw [readPercent_of_writtenIn written, if_pos small, stands.unique (stands_ofWritten small)]

/-- A text is refused exactly if every decimal number that it may be is at the limit or beyond
it, and the complaint shows the text as it was given. -/
theorem readPercent_eq_error_iff {error : ParameterError} :
    readPercent field text = .error error ↔
      error = .notANumber field text ∧
        ∀ decimal : Decimal, decimal.WrittenIn text → limit ≤ |decimal.value| := by
  constructor
  · intro refused
    refine ⟨eq_notANumber_of_readPercent refused, fun decimal written => ?_⟩
    by_contra small
    rw [readPercent_of_writtenIn written, if_pos (not_le.1 small)] at refused
    cases refused
  · rintro ⟨rfl, large⟩
    cases read : readPercent field text with
    | error error => rw [eq_notANumber_of_readPercent read]
    | ok number =>
        obtain ⟨decimal, written, small, -⟩ := readPercent_eq_ok_iff.1 read
        exact absurd small (not_lt.2 (large decimal written))

end

example : readPercent .writeRatio "\t+2.5E1 " = .ok (.ofNat 25) := by decide +kernel

example : readPercent .writeRatio "inf" = .error (.notANumber .writeRatio "inf") := by
  decide +kernel

/-- The numeral of an integer is read as that percentage. -/
theorem readPercent_ofInt (field : Field) (value : Int64) :
    readPercent field (String.ofList (Numeral.ofInt value.toInt)) = .ok (.ofInt value.toInt) := by
  have least := Int64.le_toInt value
  have greatest := Int64.toInt_lt value
  have written : (Decimal.ofInt value.toInt).WrittenIn
      (String.ofList (Numeral.ofInt value.toInt)) := by
    rw [Decimal.writtenIn_iff, String.toList_ofList, trim_ofInt, Decimal.text_ofInt]
  have finite : (ofWritten (.ofInt value.toInt)).isFinite = true := by
    rw [ofWritten_ofInt]
    exact isFinite_ofInt (by omega)
  rw [readPercent_of_writtenIn written, if_pos ((isFinite_ofWritten_iff _).1 finite),
    ofWritten_ofInt]

end Parameter
end AccessTrace
