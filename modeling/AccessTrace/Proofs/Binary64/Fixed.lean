/-
Module: AccessTrace.Proofs.Binary64.Fixed
Purpose: The text of a number with two places: its exact value, rounded once to hundredths.
Main exports:
  RoundsTo, roundsTo_roundHalfEven, Binary64.twoPlaces, Binary64.exists_fixed_two
-/
import Mathlib
import AccessTrace.Binary64.Layout
import AccessTrace.Proofs.Binary64.Arithmetic

namespace AccessTrace

open AccessTrace.Text

/-! ### The nearest whole number -/

/-- A whole number that a value is rounded to: none is nearer, and of two equally
near ones it is the even one. -/
structure RoundsTo (x : ℚ) (n : Nat) : Prop where
  near : |x - n| ≤ 1 / 2
  tie : |x - n| = 1 / 2 → Even n

/-- A remainder of half the divisor is where the even neighbour is taken. -/
theorem even_roundHalfEven {num den : Nat} (half : 2 * (num % den) = den) :
    Even (roundHalfEven num den) := by
  have tie : roundHalfEven num den = num / den + num / den % 2 := by
    simp [roundHalfEven, half]
  rw [tie, Nat.even_iff]
  omega

theorem roundsTo_roundHalfEven (num : Nat) {den : Nat} (hd : 0 < den) :
    RoundsTo (num / den) (roundHalfEven num den) := by
  have den_pos : (0 : ℚ) < den := Nat.cast_pos.2 hd
  have exact : (num / den : ℚ) * den = num := div_mul_cancel₀ _ den_pos.ne'
  obtain ⟨low, high⟩ := roundHalfEven_error num den hd
  constructor
  · have low' : (2 * num : ℚ) ≤ 2 * (roundHalfEven num den * den) + den := by exact_mod_cast low
    have high' : (2 * (roundHalfEven num den * den) : ℚ) ≤ 2 * num + den := by exact_mod_cast high
    rw [abs_le]
    constructor
    · refine le_of_mul_le_mul_right ?_ den_pos
      linarith
    · refine le_of_mul_le_mul_right ?_ den_pos
      linarith
  · intro distance
    apply even_roundHalfEven
    have parts := Nat.div_add_mod' num den
    have small := Nat.mod_lt num hd
    have next : (num / den + 1) * den = num / den * den + den := Nat.succ_mul _ _
    -- Half a step lies between the ratio and its neighbours on both sides.
    rcases (abs_eq (by norm_num)).1 distance with above | below
    · have apart : 2 * num = 2 * (roundHalfEven num den * den) + den := by
        have : (2 * num : ℚ) = 2 * (roundHalfEven num den * den) + den := by
          linear_combination (2 * den : ℚ) * above - 2 * exact
        exact_mod_cast this
      rcases roundHalfEven_cases num den with ⟨result, -⟩ | ⟨result, -⟩ <;>
        rw [result] at apart <;> omega
    · have apart : 2 * num + den = 2 * (roundHalfEven num den * den) := by
        have : (2 * num + den : ℚ) = 2 * (roundHalfEven num den * den) := by
          linear_combination (2 * den : ℚ) * below - 2 * exact
        exact_mod_cast this
      rcases roundHalfEven_cases num den with ⟨result, -⟩ | ⟨result, -⟩ <;>
        rw [result] at apart <;> omega

namespace Binary64

/-- So many hundredths, with two places behind the point. -/
def twoPlaces (hundredths : Nat) : List Char :=
  Numeral.ofNat (hundredths / 100) ++
    ['.', (hundredths / 10 % 10).digitChar, (hundredths % 10).digitChar]

/-- A numeral below one hundred is filled up to two digits. -/
theorem padded_ofNat {n : Nat} (small : n < 100) :
    List.replicate (2 - (Numeral.ofNat n).length) '0' ++ Numeral.ofNat n =
      [(n / 10).digitChar, (n % 10).digitChar] := by
  rcases Nat.lt_or_ge n 10 with single | double
  · rw [Numeral.ofNat, Nat.toDigits_of_lt_base single, Nat.div_eq_of_lt single,
      Nat.mod_eq_of_lt single]
    rfl
  · rw [Numeral.ofNat, Nat.toDigits_of_base_le (by decide) double,
      Nat.toDigits_of_lt_base (by omega)]
    rfl

theorem twoPlaces_eq (hundredths : Nat) :
    Numeral.ofNat (hundredths / 100) ++ '.' ::
        (List.replicate (2 - (Numeral.ofNat (hundredths % 100)).length) '0' ++
          Numeral.ofNat (hundredths % 100)) =
      twoPlaces hundredths := by
  have tens : hundredths % 100 / 10 = hundredths / 10 % 10 := by omega
  have ones : hundredths % 100 % 10 = hundredths % 10 := by omega
  rw [padded_ofNat (Nat.mod_lt _ (by decide)), tens, ones, twoPlaces]

/-- A positive number is written as its exact value, rounded to hundredths. -/
theorem exists_fixed_two {value : Binary64} (finite : value.isFinite = true)
    (positive : 0 < value.toRat) :
    ∃ hundredths, value.fixed 2 = twoPlaces hundredths ∧
      RoundsTo (100 * value.toRat) hundredths := by
  have unit := unitsOfOne_cast_pos
  obtain ⟨negative, rank, h, rfl⟩ := eq_finite_of_isFinite finite
  cases negative with
  | true =>
      refine absurd positive (not_lt.2 ?_)
      simp only [toRat_finite, withSign, if_true, Int.cast_neg, Int.cast_natCast, neg_div]
      exact neg_nonpos.2 (div_nonneg (Nat.cast_nonneg _) unit.le)
  | false =>
      refine ⟨roundHalfEven (units rank * 100) unitsOfOne, twoPlaces_eq _, ?_⟩
      have scaled : 100 * toRat (.finite false rank h) =
          ((units rank * 100 : Nat) : ℚ) / unitsOfOne := by
        simp only [toRat_finite, withSign, Bool.false_eq_true, if_false, Int.cast_natCast]
        push_cast
        ring
      rw [scaled]
      exact roundsTo_roundHalfEven _ unitsOfOne_pos

end Binary64
end AccessTrace
