/-
Module: AccessTrace.Proofs.Json.Reals
Purpose: JSON reals: how they are read where they were written.
Main exports:
  Json.NumberText.ofMagnitude, Json.readScalar_real, Json.ReadsBack, Json.NumberText.nearest,
  Json.readsBack_nearest
-/
import Mathlib
import AccessTrace.Json.Printer
import AccessTrace.Proofs.Json.Numbers

namespace AccessTrace.Json

open AccessTrace.Text

open Binary64 (Digits)

/-!
A finite real is written with the fewest digits that read back to it, around a
point or with an exponent.  Either way the text stands for exactly the value of
those digits.  A reader that rounds this value once finds the real again; how
others do is for them to say.
-/

namespace NumberText

/-! ### Reals as characters -/

/-- Digits around a point. -/
def positional (negative : Bool) (value : Digits) : NumberText :=
  if value.point ≤ 0 then
    { negative
      whole := ['0']
      fraction := List.replicate (-value.point).toNat '0' ++ value.digits }
  else if value.digits.length ≤ value.point then
    { negative
      whole := value.digits ++ List.replicate (value.point - value.digits.length).toNat '0'
      fraction := ['0'] }
  else
    { negative
      whole := value.digits.take value.point.toNat
      fraction := value.digits.drop value.point.toNat }

/-- Digits with an exponent. -/
def scientific (negative : Bool) (value : Digits) : NumberText where
  negative
  whole := value.digits.take 1
  fraction := value.digits.drop 1
  exponent := some
    { negative := value.point - 1 < 0
      digits := Numeral.ofNat (value.point - 1).natAbs }

/-- A finite real as it is written. -/
def ofMagnitude (negative : Bool) (rank : Nat) : NumberText :=
  if rank = 0 then { negative, whole := ['0'], fraction := ['0'] }
  else
    let value := Binary64.shortestDigits realLayout.tie rank
    if realLayout.positional value.point then positional negative value
    else scientific negative value

theorem printFraction_of_ne_nil {digits : List Char} (some : digits ≠ []) :
    printFraction digits = '.' :: digits := by
  cases digits with
  | nil => exact absurd rfl some
  | cons digit digits => rfl

section
variable (negative : Bool) {value : Digits} (proper : value.Proper)
include proper

theorem digits_ne_nil : value.digits ≠ [] := by
  obtain ⟨digit, rest, digits, -⟩ := proper.leading
  rw [digits]
  exact List.cons_ne_nil _ _

theorem print_positional :
    (positional negative value).print =
      (if negative then ['-'] else []) ++ Binary64.Layout.writePositional true value := by
  have some := digits_ne_nil proper
  by_cases below : value.point ≤ 0
  · have fraction := printFraction_of_ne_nil (List.append_ne_nil_of_right_ne_nil
      (List.replicate (-value.point).toNat '0') some)
    simp [positional, Binary64.Layout.writePositional, below, print, fraction, printExponent]
  · by_cases whole : value.digits.length ≤ value.point
    · simp [positional, Binary64.Layout.writePositional, below, whole, print, printFraction,
        printExponent]
    · have behind : value.digits.drop value.point.toNat ≠ [] := by
        rw [Ne, List.drop_eq_nil_iff]
        omega
      simp [positional, Binary64.Layout.writePositional, below, whole, print,
        printFraction_of_ne_nil behind, printExponent]

theorem print_scientific :
    (scientific negative value).print =
      (if negative then ['-'] else []) ++ Binary64.Layout.writeScientific value := by
  obtain ⟨digit, rest, digits, -⟩ := proper.leading
  cases rest with
  | nil =>
      simp [scientific, Binary64.Layout.writeScientific, digits, print, printFraction,
        printExponent]
  | cons second rest =>
      simp [scientific, Binary64.Layout.writeScientific, digits, print, printFraction,
        printExponent]

theorem wellFormed_positional : (positional negative value).WellFormed := by
  have some := digits_ne_nil proper
  obtain ⟨digit, rest, digits, nonzero⟩ := proper.leading
  have zero : Char.isDigit '0' = true := by decide
  unfold positional
  split_ifs with below whole
  · constructor
    case fraction =>
      intro c member
      rcases List.mem_append.1 member with zeros | digit
      · rw [List.eq_of_mem_replicate zeros]
        exact zero
      · exact proper.all c digit
    all_goals simp
  · constructor
    case whole =>
      intro c member
      rcases List.mem_append.1 member with digit | zeros
      · exact proper.all c digit
      · rw [List.eq_of_mem_replicate zeros]
        exact zero
    all_goals simp [digits, nonzero]
  · obtain ⟨point, places⟩ : ∃ point : Nat, value.point.toNat = point + 1 :=
      ⟨value.point.toNat - 1, by omega⟩
    constructor
    case whole =>
      intro c member
      exact proper.all c (List.mem_of_mem_take member)
    case fraction =>
      intro c member
      exact proper.all c (List.mem_of_mem_drop member)
    all_goals simp [digits, nonzero, places]

theorem wellFormed_scientific : (scientific negative value).WellFormed := by
  obtain ⟨digit, rest, digits, nonzero⟩ := proper.leading
  constructor
  case whole =>
    intro c member
    exact proper.all c (List.mem_of_mem_take member)
  case fraction =>
    intro c member
    exact proper.all c (List.mem_of_mem_drop member)
  case exponent =>
    rintro exponent ⟨⟩
    exact ⟨Numeral.ofNat_ne_nil _, fun c => Numeral.isDigit_of_mem_ofNat⟩
  all_goals simp [scientific, digits, nonzero]

end

section
variable (negative : Bool) {rank : Nat} (h : rank < 2047 * Binary64.binade)
include h

theorem wellFormed_ofMagnitude : (ofMagnitude negative rank).WellFormed := by
  unfold ofMagnitude
  split_ifs with none
  · constructor <;> simp
  · simp only
    split_ifs
    · exact wellFormed_positional negative (Binary64.proper_shortestDigits _ h none)
    · exact wellFormed_scientific negative (Binary64.proper_shortestDigits _ h none)

/-- What is written for a finite real are the characters of a number. -/
theorem print_ofMagnitude :
    (ofMagnitude negative rank).print = realLayout.write (.finite negative rank h) := by
  rw [Binary64.Layout.write, Binary64.Layout.writeMagnitude, ofMagnitude]
  by_cases none : rank = 0
  · simp [none, print, printFraction, printExponent, realLayout]
  · have proper := Binary64.proper_shortestDigits realLayout.tie h none
    have marks : realLayout.marksWhole = true := rfl
    rw [if_neg none, if_neg none]
    cases layout : realLayout.positional (Binary64.shortestDigits realLayout.tie rank).point with
    | true => simpa [layout, marks] using print_positional negative proper
    | false => simpa [layout] using print_scientific negative proper

end

end NumberText

/-- What is read where a real was written. -/
def realReading : Binary64 → Reading
  | .finite negative rank _ => .number (.ofMagnitude negative rank)
  | _ => .null

theorem readScalar_real (value : Binary64) {rest : List Char} (ends : Ends rest) :
    readScalar (realLayout.write value ++ rest) = (realReading value, rest) := by
  cases value with
  | nan => rfl
  | infinite negative => cases negative <;> rfl
  | finite negative rank h =>
      rw [← NumberText.print_ofMagnitude negative h]
      exact readScalar_print (NumberText.wellFormed_ofMagnitude negative h) ends

/-- Whether a way of making reals of the texts of numbers gives a real back for
what is written for it. -/
def ReadsBack (read : NumberText → Except Fault Binary64) (value : Binary64) : Prop :=
  ∀ text, readScalar (realLayout.write value) = (.number text, []) → read text = .ok value

theorem ReadsBack.realBy {read : NumberText → Except Fault Binary64} {value : Binary64}
    (reads : ReadsBack read value) (finite : value.isFinite = true) :
    realBy read (realReading value) = .ok value := by
  have written := readScalar_real value ends_nil
  rw [List.append_nil] at written
  cases value with
  | nan => cases finite
  | infinite negative => cases finite
  | finite negative rank h => exact reads _ written

theorem readsBack_of_realBy {read : NumberText → Except Fault Binary64} {value : Binary64}
    (reads : realBy read (realReading value) = .ok value) : ReadsBack read value := by
  intro text written
  have expected := readScalar_real value ends_nil
  rw [List.append_nil, written] at expected
  have same : Reading.number text = realReading value := congrArg Prod.fst expected
  rw [← same] at reads
  exact reads

/-! ### Reading to the nearest real -/

namespace NumberText

/-- The real nearest to what a text stands for. -/
def nearest (text : NumberText) : Except Fault Binary64 :=
  let result := Binary64.ofDecimal text.negative
    (Nat.ofDigitChars 10 (text.whole ++ text.fraction) 0)
    (text.exponentValue - text.fraction.length)
  if result.isFinite then .ok result else .error .malformed

/-- The value of a text, without its sign. -/
def magnitude (text : NumberText) : ℚ :=
  (Nat.ofDigitChars 10 (text.whole ++ text.fraction) 0 : ℚ) *
    10 ^ (text.exponentValue - text.fraction.length)

section
variable (negative : Bool) {value : Digits} (proper : value.Proper)

theorem magnitude_positional :
    (positional negative value).magnitude =
      Nat.ofDigitChars 10 value.digits 0 * 10 ^ (value.point - value.digits.length) := by
  have zeros (count : Nat) : Nat.ofDigitChars 10 (List.replicate count '0' ++ value.digits) 0 =
      Nat.ofDigitChars 10 value.digits 0 := by
    rw [Nat.ofDigitChars_append, Nat.ofDigitChars_replicate_zero, Nat.mul_zero]
  unfold positional
  split_ifs with below whole
  · have places : (0 : Int) - (List.replicate (-value.point).toNat '0' ++ value.digits).length =
        value.point - value.digits.length := by
      rw [List.length_append, List.length_replicate]
      omega
    simp only [magnitude, exponentValue, List.singleton_append, places]
    rw [Nat.ofDigitChars_cons, Nat.mul_zero, Nat.sub_self, Nat.add_zero, zeros]
  · obtain ⟨count, places⟩ := Int.eq_ofNat_of_zero_le (sub_nonneg.2 whole)
    have tenth : (10 : ℚ) ^ ((0 : Int) - (['0'].length : Int)) = 10⁻¹ := by norm_num
    simp only [magnitude, exponentValue, places, Int.toNat_natCast, tenth, zpow_natCast]
    rw [List.append_assoc, Nat.ofDigitChars_append, Nat.ofDigitChars_append,
      Nat.ofDigitChars_replicate_zero, Nat.ofDigitChars_cons, Nat.ofDigitChars_nil]
    push_cast
    field_simp
    ring
  · have places : (0 : Int) - (value.digits.drop value.point.toNat).length =
        value.point - value.digits.length := by
      rw [List.length_drop]
      omega
    simp only [magnitude, exponentValue, List.take_append_drop, places]

include proper in
theorem magnitude_scientific :
    (scientific negative value).magnitude =
      Nat.ofDigitChars 10 value.digits 0 * 10 ^ (value.point - value.digits.length) := by
  have some := List.length_pos_iff.2 (digits_ne_nil proper)
  have exponent : (scientific negative value).exponentValue = value.point - 1 := by
    have whole : Nat.ofDigitChars 10 (Numeral.ofNat (value.point - 1).natAbs) 0 =
        (value.point - 1).natAbs := Nat.ofDigitChars_ten_toDigits
    simp only [exponentValue, scientific, whole, decide_eq_true_eq]
    split_ifs <;> omega
  have places : (scientific negative value).exponentValue -
      (scientific negative value).fraction.length = value.point - value.digits.length := by
    rw [exponent, scientific, List.length_drop]
    omega
  rw [magnitude, places, scientific, List.take_append_drop]

/-- The text of a magnitude has its fewest digits, and thus reads back to it. -/
theorem nearest_of_magnitude {text : NumberText} {rank significand : Nat} {exponent : Int}
    (h : rank < 2047 * Binary64.binade)
    (reads : Binary64.readsBack rank significand exponent = true)
    (value : text.magnitude = significand * 10 ^ exponent) :
    text.nearest = .ok (.finite text.negative rank h) := by
  have read := Binary64.ofDecimal_of_readsBack text.negative h reads
  rw [Binary64.ofDecimal_congr text.negative value.symm] at read
  rw [nearest, read]
  rfl

end

theorem magnitude_ofMagnitude (negative : Bool) {rank : Nat} (h : rank < 2047 * Binary64.binade) :
    ∃ significand exponent, Binary64.readsBack rank significand exponent = true ∧
      (ofMagnitude negative rank).magnitude = significand * 10 ^ exponent := by
  by_cases none : rank = 0
  · subst none
    exact ⟨0, 0, by decide, by simp [ofMagnitude, magnitude, Nat.ofDigitChars_cons]⟩
  · obtain ⟨significand, exponent, digits, reads⟩ := Binary64.exists_shortestDigits
      realLayout.tie h
    have proper := Binary64.proper_shortestDigits realLayout.tie h none
    have value := Binary64.value_ofScaled significand exponent
    rw [← digits] at value
    refine ⟨significand, exponent, reads, ?_⟩
    rw [ofMagnitude, if_neg none]
    simp only
    split_ifs
    · exact (magnitude_positional negative).trans value
    · exact (magnitude_scientific negative proper).trans value

theorem negative_ofMagnitude (negative : Bool) (rank : Nat) :
    (ofMagnitude negative rank).negative = negative := by
  unfold ofMagnitude positional scientific
  simp only
  split_ifs <;> rfl

end NumberText

/-- A reader that rounds once gives every finite real back. -/
theorem readsBack_nearest {value : Binary64} (finite : value.isFinite = true) :
    ReadsBack NumberText.nearest value := by
  apply readsBack_of_realBy
  cases value with
  | nan => cases finite
  | infinite negative => cases finite
  | finite negative rank h =>
      obtain ⟨significand, exponent, reads, magnitude⟩ :=
        NumberText.magnitude_ofMagnitude negative h
      have read := NumberText.nearest_of_magnitude h reads magnitude
      rw [NumberText.negative_ofMagnitude] at read
      exact read

/-- A reader that rounds twice may give a neighbour. -/
example : ¬ ReadsBack NumberText.real (.ofNat 1 / .ofNat 11) := by
  intro reads
  have back := reads.realBy (by decide +kernel)
  exact absurd back (by decide +kernel)

end AccessTrace.Json
