/-
Module: AccessTrace.Proofs.Binary64.Decimal
Purpose: Decimal numerals stand for the nearest number, and the fewest digits read back.
Main exports:
  Binary64.ofDecimal_eq_ofRatio, Binary64.ofDecimal_congr, Binary64.readsBack_iff,
  Binary64.Digits.Proper, Binary64.exists_shortestDigits
-/
import Mathlib
import AccessTrace.Binary64.Shortest
import AccessTrace.Proofs.Binary64.Nearest
import AccessTrace.Proofs.TraceFile.Line

namespace AccessTrace

open AccessTrace.Text

namespace Binary64

/-!
The bounds on exponents that settle a numeral without computing its power of
ten change nothing: beyond them the nearest number is infinite or zero anyway.
A numeral is therefore read by its value alone.
-/

/-! ### Ratios beyond the ends -/

theorem ofRatio_of_large (negative : Bool) {num den : Nat} (hd : 0 < den)
    (large : den * 2 ^ 2098 ≤ num) : ofRatio negative num den = .infinite negative := by
  have limit : limitUnits ≤ 2 ^ 2098 := by decide +kernel
  rw [ofRatio, dif_neg]
  rw [roundRank_lt_rankCount_iff num hd, not_lt]
  exact (Nat.mul_le_mul_left den limit).trans large

theorem ofRatio_of_small (negative : Bool) {num den : Nat} (small : 2 * num < den) :
    ofRatio negative num den = zero negative := by
  have quotient : num / den = 0 := Nat.div_eq_of_lt (by omega)
  have remainder : num % den = num := Nat.mod_eq_of_lt (by omega)
  have none : roundRank num den = 0 := by
    rw [roundRank, quotient, Nat.log2_zero, Nat.zero_sub, Nat.zero_mul, Nat.shiftLeft_zero,
      Nat.zero_add, roundHalfEven]
    simp only [quotient, remainder]
    rw [if_pos small]
  simp only [ofRatio, none, zero]
  exact dif_pos (by decide)

theorem ofRatio_congr (negative : Bool) {num den num' den' : Nat} (hd : 0 < den) (hd' : 0 < den')
    (eq : num * den' = num' * den) : ofRatio negative num den = ofRatio negative num' den' := by
  rw [ofRatio, ofRatio]
  simp only [roundRank_congr hd hd' eq]

/-! ### Numerals by their values -/

theorem two_pow_le_ten_pow : (2 : ℚ) ^ 1200 ≤ 10 ^ 400 :=
  calc (2 : ℚ) ^ 1200 = (2 ^ 3) ^ 400 := by rw [← pow_mul]
    _ ≤ 10 ^ 400 := pow_le_pow_left₀ (by norm_num) (by norm_num) 400

/-- The value of a numeral whose exponent is above the upper bound. -/
theorem large_of_exponent {digits : Nat} {exponent : Int} (some : digits ≠ 0)
    (large : 400 < exponent) : (2 : ℚ) ^ 1200 ≤ digits * 10 ^ exponent := by
  have one_le : (1 : ℚ) ≤ digits := Nat.one_le_cast.2 (Nat.pos_of_ne_zero some)
  have power : (10 : ℚ) ^ (400 : Int) ≤ 10 ^ exponent :=
    zpow_le_zpow_right₀ (by norm_num) large.le
  calc (2 : ℚ) ^ 1200 ≤ 10 ^ (400 : Int) := two_pow_le_ten_pow
    _ ≤ 10 ^ exponent := power
    _ ≤ digits * 10 ^ exponent := le_mul_of_one_le_left (zpow_nonneg (by norm_num) _) one_le

/-- The value of a numeral whose exponent is below the lower bound. -/
theorem small_of_exponent {digits : Nat} {exponent : Int}
    (small : exponent < -(400 + (Nat.log2 digits : Int))) :
    (digits : ℚ) * 10 ^ exponent * 2 ^ 1199 ≤ 1 := by
  have length : (digits : ℚ) ≤ 2 * 2 ^ Nat.log2 digits := by
    have := (Nat.lt_log2_self (n := digits)).le
    rw [pow_succ, mul_comm] at this
    exact_mod_cast this
  have power : (10 : ℚ) ^ exponent ≤ (10 ^ 400 * 10 ^ Nat.log2 digits)⁻¹ := by
    rw [← pow_add, ← zpow_natCast, ← zpow_neg]
    exact zpow_le_zpow_right₀ (by norm_num) (by push_cast; exact small.le)
  have bases : (2 : ℚ) ^ Nat.log2 digits ≤ 10 ^ Nat.log2 digits :=
    pow_le_pow_left₀ (by norm_num) (by norm_num) _
  calc (digits : ℚ) * 10 ^ exponent * 2 ^ 1199
      ≤ 2 * 2 ^ Nat.log2 digits * (10 ^ 400 * 10 ^ Nat.log2 digits)⁻¹ * 2 ^ 1199 := by gcongr
    _ = 2 ^ 1200 * 2 ^ Nat.log2 digits / (10 ^ 400 * 10 ^ Nat.log2 digits) := by
        rw [div_eq_mul_inv, pow_succ 2 1199]
        ring
    _ ≤ 1 := by
        rw [div_le_one (by positivity)]
        exact mul_le_mul two_pow_le_ten_pow bases (by positivity) (by positivity)

/-- A numeral is read as the number nearest to its value, however that value is
written as a ratio. -/
theorem ofDecimal_eq_ofRatio (negative : Bool) {digits num den : Nat} {exponent : Int}
    (hd : 0 < den) (value : (digits : ℚ) * 10 ^ exponent * unitsOfOne = num / den) :
    ofDecimal negative digits exponent = ofRatio negative num den := by
  have den_pos : (0 : ℚ) < den := Nat.cast_pos.2 hd
  have unit : (unitsOfOne : ℚ) = 2 ^ 1074 := by
    rw [unitsOfOne_eq, Nat.cast_pow, Nat.cast_ofNat]
  have product : (digits : ℚ) * 10 ^ exponent * unitsOfOne * den = num := by
    rw [value, div_mul_cancel₀ _ den_pos.ne']
  unfold ofDecimal
  split_ifs with none large small whole
  · have zero : num = 0 := by
      rw [none, Nat.cast_zero, zero_mul, zero_mul, zero_mul] at product
      exact_mod_cast product.symm
    rw [zero, ofRatio_of_small negative hd]
  · refine (ofRatio_of_large negative hd ?_).symm
    have : (den : ℚ) * 2 ^ 2098 ≤ num := by
      calc (den : ℚ) * 2 ^ 2098 ≤ den * 2 ^ 2274 := by gcongr <;> norm_num
        _ = (2 : ℚ) ^ 1200 * unitsOfOne * den := by rw [unit, ← pow_add, mul_comm]
        _ ≤ digits * 10 ^ exponent * unitsOfOne * den :=
            mul_le_mul_of_nonneg_right (mul_le_mul_of_nonneg_right
              (large_of_exponent none large) (Nat.cast_nonneg _)) den_pos.le
        _ = num := product
    exact_mod_cast this
  · refine (ofRatio_of_small negative ?_).symm
    have : (2 : ℚ) * num < den := by
      calc (2 : ℚ) * num = digits * 10 ^ exponent * 2 ^ 1075 * den := by
            rw [← product, unit, pow_succ 2 1074]
            ring
        _ < digits * 10 ^ exponent * 2 ^ 1199 * den := by
            gcongr <;> norm_num
        _ ≤ 1 * den := by
            gcongr
            exact small_of_exponent small
        _ = den := one_mul _
    exact_mod_cast this
  · obtain ⟨power, rfl⟩ := Int.eq_ofNat_of_zero_le whole
    apply ofRatio_congr negative Nat.one_pos hd
    rw [zpow_natCast] at product
    rw [Numeral.powerOfTen, Nat.pow_eq, Int.toNat_natCast, mul_one]
    exact_mod_cast product
  · obtain ⟨power, opposite⟩ := Int.eq_ofNat_of_zero_le (show 0 ≤ -exponent by omega)
    have power_pos : (0 : ℚ) < 10 ^ power := by positivity
    rw [← neg_neg exponent, opposite, zpow_neg, zpow_natCast] at product
    rw [opposite, Numeral.powerOfTen, Nat.pow_eq, Int.toNat_natCast]
    apply ofRatio_congr negative (Nat.pow_pos (by decide)) hd
    have : (digits : ℚ) * unitsOfOne * den = num * 10 ^ power := by
      rw [← product]
      field_simp
    exact_mod_cast this

theorem exists_ratio (digits : Nat) (exponent : Int) :
    ∃ num den : Nat, 0 < den ∧ (digits : ℚ) * 10 ^ exponent * unitsOfOne = num / den := by
  have nonneg : (0 : ℚ) ≤ digits * 10 ^ exponent * unitsOfOne := by positivity
  have ratio := abs_eq_natAbs_div (digits * 10 ^ exponent * unitsOfOne)
  rw [abs_of_nonneg nonneg] at ratio
  exact ⟨_, _, Rat.den_pos _, ratio⟩

/-- Numerals of equal values are read alike. -/
theorem ofDecimal_congr (negative : Bool) {digits digits' : Nat} {exponent exponent' : Int}
    (eq : (digits : ℚ) * 10 ^ exponent = digits' * 10 ^ exponent') :
    ofDecimal negative digits exponent = ofDecimal negative digits' exponent' := by
  obtain ⟨num, den, hd, ratio⟩ := exists_ratio digits exponent
  rw [ofDecimal_eq_ofRatio negative hd ratio]
  rw [eq] at ratio
  rw [ofDecimal_eq_ofRatio negative hd ratio]

/-! ### The fewest digits -/

/-- What reads back to a rank does so with either sign. -/
theorem ofDecimal_of_readsBack (negative : Bool) {rank significand : Nat} {exponent : Int}
    (h : rank < 2047 * binade) (reads : readsBack rank significand exponent = true) :
    ofDecimal negative significand exponent = .finite negative rank h := by
  obtain ⟨num, den, hd, ratio⟩ := exists_ratio significand exponent
  rw [readsBack, ofDecimal_eq_ofRatio false hd ratio] at reads
  rw [ofDecimal_eq_ofRatio negative hd ratio]
  by_cases fits : roundRank num den < rankCount
  · rw [ofRatio, dif_pos fits] at reads ⊢
    have same : roundRank num den = rank := beq_iff_eq.1 reads
    subst same
    rfl
  · rw [ofRatio, dif_neg fits] at reads
    cases reads

/-- A magnitude in units of `2 ^ -places` has no more than so many decimal places. -/
theorem expansion_value (magnitude places : Nat) :
    ((magnitude * Nat.pow 5 places : Nat) : ℚ) * 10 ^ (-(places : Int)) * 2 ^ places =
      magnitude := by
  have power : (10 : ℚ) ^ places = 5 ^ places * 2 ^ places := by
    rw [← mul_pow]
    norm_num
  rw [zpow_neg, zpow_natCast, power, Nat.pow_eq, Nat.cast_mul, Nat.cast_pow, Nat.cast_ofNat]
  field_simp

/-- What stands for a magnitude exactly reads back to it. -/
theorem readsBack_of_exact {rank significand : Nat} {exponent : Int} (h : rank < rankCount)
    (value : (significand : ℚ) * 10 ^ exponent * unitsOfOne = units rank) :
    readsBack rank significand exponent = true := by
  rw [← div_one (units rank : ℚ), ← Nat.cast_one] at value
  rw [readsBack, ofDecimal_eq_ofRatio false Nat.one_pos value, ofRatio]
  simp only [roundRank_units, dif_pos h, beq_self_eq_true]

theorem readsBack_expansion {rank : Nat} (h : rank < rankCount) :
    readsBack rank (units rank * Nat.pow 5 1074) (-1074) = true := by
  apply readsBack_of_exact h
  rw [unitsOfOne_eq, Nat.cast_pow, Nat.cast_ofNat]
  exact expansion_value (units rank) 1074

theorem readsBack_of_neighbour? {tie : Tie} {rank significand : Nat} {exponent : Int}
    (found : neighbour? tie rank exponent = some significand) :
    readsBack rank significand exponent = true := by
  unfold neighbour? at found
  simp only at found
  generalize (scaledRatio (units rank) exponent).1 / _ = lower at found
  generalize (scaledRatio (units rank) exponent).1 % _ = remainder at found
  split_ifs at found with both nearLower nearUpper below above
  all_goals simp only [Bool.and_eq_true] at *
  · cases found
    exact both.1
  · cases found
    exact both.2.2
  · cases tie with
    | toUpper =>
        cases found
        exact both.2.2
    | toEven =>
        cases found
        rcases Nat.mod_two_eq_zero_or_one lower with even | odd
        · rw [even]
          exact both.1
        · rw [odd]
          exact both.2.2
  · cases found
    exact below
  · cases found
    exact above.2

/-- The fewest digits of a magnitude are digits that read back. -/
theorem exists_shortestDigits (tie : Tie) {rank : Nat} (h : rank < rankCount) :
    ∃ significand exponent, shortestDigits tie rank = .ofScaled significand exponent ∧
      readsBack rank significand exponent = true := by
  rw [shortestDigits]
  generalize attempts : List.findSome? _ (List.range 17) = found
  cases found with
  | none => exact ⟨_, _, Option.getD_none, readsBack_expansion h⟩
  | some digits =>
      obtain ⟨count, -, attempt⟩ := List.exists_of_findSome?_eq_some attempts
      obtain ⟨significand, neighbour, scaled⟩ := Option.map_eq_some_iff.1 attempt
      exact ⟨significand, _, scaled.symm, readsBack_of_neighbour? neighbour⟩

/-! ### Digits without zeros around them -/

/-- Digits, of which the first one is no zero. -/
structure Digits.Proper (value : Digits) : Prop where
  all : ∀ c ∈ value.digits, c.isDigit = true
  leading : ∃ digit rest, value.digits = digit :: rest ∧ digit ≠ '0'

/-- What was taken off the end of a numeral are zeros. -/
theorem exists_zeros (significand : Nat) (exponent : Int) : ∃ zeros,
    Numeral.ofNat significand =
      (Digits.ofScaled significand exponent).digits ++ List.replicate zeros '0' := by
  obtain ⟨count, zeros⟩ : ∃ count,
      (Numeral.ofNat significand).rtakeWhile (· == '0') = List.replicate count '0' := by
    refine ⟨_, List.eq_replicate_of_mem ?_⟩
    intro c member
    have zero := List.mem_rtakeWhile_imp member
    exact beq_iff_eq.1 zero
  refine ⟨count, ?_⟩
  rw [← zeros]
  exact List.rdropWhile_append_rtakeWhile.symm

theorem proper_ofScaled {significand : Nat} (positive : 0 < significand) (exponent : Int) :
    (Digits.ofScaled significand exponent).Proper := by
  obtain ⟨zeros, all⟩ := exists_zeros significand exponent
  obtain ⟨digit, rest, front, leading⟩ := Numeral.exists_leading positive
  constructor
  · intro c member
    apply Numeral.isDigit_of_mem_ofNat (n := significand)
    rw [all]
    exact List.mem_append_left _ member
  · cases digits : (Digits.ofScaled significand exponent).digits with
    | nil =>
        rw [digits, List.nil_append, front] at all
        exact absurd (List.eq_of_mem_replicate (all ▸ List.mem_cons_self)) leading
    | cons first others =>
        rw [digits, front, List.cons_append] at all
        cases all
        exact ⟨digit, others, rfl, leading⟩

/-- Taking zeros off the end keeps the value. -/
theorem value_ofScaled (significand : Nat) (exponent : Int) :
    let value := Digits.ofScaled significand exponent
    (Nat.ofDigitChars 10 value.digits 0 : ℚ) * 10 ^ (value.point - value.digits.length) =
      significand * 10 ^ exponent := by
  intro value
  obtain ⟨zeros, all⟩ := exists_zeros significand exponent
  have whole : Nat.ofDigitChars 10 (Numeral.ofNat significand) 0 = significand :=
    Nat.ofDigitChars_ten_toDigits
  rw [all, Nat.ofDigitChars_append, Nat.ofDigitChars_replicate_zero] at whole
  have places : value.point - value.digits.length = zeros + exponent := by
    have length := congrArg List.length all
    rw [List.length_append, List.length_replicate] at length
    show (Numeral.ofNat significand).length + exponent - _ = _
    rw [length]
    push_cast
    ring
  rw [places, ← whole, zpow_add₀ (by norm_num), zpow_natCast]
  push_cast
  ring

theorem pos_of_readsBack {rank significand : Nat} {exponent : Int} (some : rank ≠ 0)
    (reads : readsBack rank significand exponent = true) : 0 < significand := by
  apply Nat.pos_of_ne_zero
  rintro rfl
  rw [readsBack, ofDecimal, if_pos rfl] at reads
  exact some (beq_iff_eq.1 reads).symm

theorem proper_shortestDigits (tie : Tie) {rank : Nat} (h : rank < rankCount) (some : rank ≠ 0) :
    (shortestDigits tie rank).Proper := by
  obtain ⟨significand, exponent, digits, reads⟩ := exists_shortestDigits tie h
  rw [digits]
  exact proper_ofScaled (pos_of_readsBack some reads) exponent

end Binary64
end AccessTrace
