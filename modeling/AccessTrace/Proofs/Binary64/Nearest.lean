/-
Module: AccessTrace.Proofs.Binary64.Nearest
Purpose: The values of binary64 numbers as rationals, and rounding as a function on rationals.
Main exports:
  Binary64.toRat, Binary64.nearest, Binary64.nearest_mono, Binary64.nearest_toRat,
  Binary64.abs_nearest_sub_le, Binary64.Rounds, Binary64.limit, Binary64.isFinite_ofRatio_iff,
  Binary64.rounds_ofRatio
-/
import Mathlib
import AccessTrace.Binary64.Arithmetic
import AccessTrace.Proofs.Binary64.Rounding

namespace AccessTrace.Binary64

/-!
A finite number has a rational value.  `nearest` takes a rational to the value
that rounding gives it, were there no end to the numbers.  It keeps the order,
leaves the values of numbers alone, and moves a rational by at most a part in
2^53 of it and half of the smallest positive value.
-/

theorem unitsOfOne_eq : unitsOfOne = 2 ^ 1074 := by
  rw [unitsOfOne, Nat.shiftLeft_eq, one_mul]

theorem unitsOfOne_pos : 0 < unitsOfOne := by
  rw [unitsOfOne_eq]
  exact Nat.two_pow_pos _

theorem unitsOfOne_cast_pos : (0 : ℚ) < unitsOfOne :=
  Nat.cast_pos.2 unitsOfOne_pos

/-- The value of a finite number.  Other numbers have none, and get zero. -/
def toRat : Binary64 → ℚ
  | .finite negative rank _ => withSign negative (units rank) / unitsOfOne
  | _ => 0

/-- The magnitude of a rational after rounding. -/
def nearestMagnitude (x : ℚ) : ℚ :=
  units (roundRank (x * unitsOfOne).num.natAbs (x * unitsOfOne).den) / unitsOfOne

/-- A rational after rounding. -/
def nearest (x : ℚ) : ℚ :=
  if x < 0 then -nearestMagnitude x else nearestMagnitude x

/-! ### Magnitudes -/

theorem abs_eq_natAbs_div (x : ℚ) : |x| = (x.num.natAbs : ℚ) / x.den := by
  rw [Nat.cast_natAbs, Int.cast_abs, ← Nat.abs_cast x.den, ← abs_div, Rat.num_div_den]

/-- The magnitude after rounding can be found from any ratio of whole numbers. -/
theorem nearestMagnitude_eq {x : ℚ} {num den : Nat} (hd : 0 < den)
    (hx : |x| * unitsOfOne = num / den) :
    nearestMagnitude x = units (roundRank num den) / unitsOfOne := by
  have den_pos := (x * unitsOfOne).den_pos
  rw [nearestMagnitude, roundRank_congr den_pos hd]
  have scaled := abs_eq_natAbs_div (x * unitsOfOne)
  rw [abs_mul, Nat.abs_cast, hx, div_eq_div_iff (by positivity) (by positivity)] at scaled
  exact_mod_cast scaled.symm

theorem nearestMagnitude_nonneg (x : ℚ) : 0 ≤ nearestMagnitude x := by
  unfold nearestMagnitude
  positivity

theorem nearestMagnitude_neg (x : ℚ) : nearestMagnitude (-x) = nearestMagnitude x := by
  rw [nearestMagnitude_eq (x * unitsOfOne).den_pos, nearestMagnitude]
  rw [abs_neg, ← abs_eq_natAbs_div, abs_mul, Nat.abs_cast]

theorem nearestMagnitude_mono {x y : ℚ} (le : |x| ≤ |y|) :
    nearestMagnitude x ≤ nearestMagnitude y := by
  have scaled : |x * unitsOfOne| ≤ |y * unitsOfOne| := by
    rw [abs_mul, abs_mul]
    exact mul_le_mul_of_nonneg_right le (abs_nonneg _)
  rw [abs_eq_natAbs_div, abs_eq_natAbs_div, div_le_div_iff₀ (by positivity) (by positivity)]
    at scaled
  unfold nearestMagnitude
  refine div_le_div_of_nonneg_right ?_ unitsOfOne_cast_pos.le
  refine Nat.cast_le.2 (units_strictMono.monotone ?_)
  refine roundRank_mono (Rat.den_pos _) (Rat.den_pos _) ?_
  exact_mod_cast scaled

/-! ### Rounding on the rationals -/

theorem nearest_of_nonneg {x : ℚ} (hx : 0 ≤ x) : nearest x = nearestMagnitude x :=
  if_neg hx.not_gt

theorem nearest_zero : nearest 0 = 0 := by
  have none : roundRank 0 1 = 0 := by decide
  have magnitude : |(0 : ℚ)| * unitsOfOne = (0 : Nat) / (1 : Nat) := by simp
  rw [nearest_of_nonneg le_rfl, nearestMagnitude_eq Nat.one_pos magnitude, none]
  simp [units, binade_pos]

theorem nearest_neg (x : ℚ) : nearest (-x) = -nearest x := by
  rcases lt_trichotomy x 0 with neg | rfl | pos
  · rw [nearest_of_nonneg (by linarith), nearest, if_pos neg, nearestMagnitude_neg, neg_neg]
  · rw [neg_zero, nearest_zero, neg_zero]
  · rw [nearest_of_nonneg pos.le, nearest, if_pos (by linarith), nearestMagnitude_neg]

theorem nearest_nonneg {x : ℚ} (hx : 0 ≤ x) : 0 ≤ nearest x := by
  rw [nearest_of_nonneg hx]
  exact nearestMagnitude_nonneg x

/-- Rounding keeps the order. -/
theorem nearest_mono {x y : ℚ} (le : x ≤ y) : nearest x ≤ nearest y := by
  unfold nearest
  split_ifs with hx hy hy
  · refine neg_le_neg (nearestMagnitude_mono ?_)
    rw [abs_of_neg hx, abs_of_neg hy]
    linarith
  · have := nearestMagnitude_nonneg x
    have := nearestMagnitude_nonneg y
    linarith
  · linarith
  · refine nearestMagnitude_mono ?_
    rw [abs_of_nonneg (by linarith), abs_of_nonneg (by linarith)]
    exact le

/-- In units, a magnitude moves by half a unit and a part in 2^53 of itself. -/
theorem abs_units_roundRank_sub_le (num : Nat) {den : Nat} (hd : 0 < den) :
    |(units (roundRank num den) : ℚ) - num / den| ≤ 1 / 2 + num / den / 2 ^ 53 := by
  have den_pos : (0 : ℚ) < den := Nat.cast_pos.2 hd
  obtain ⟨step, width, low, high⟩ := units_roundRank_error num hd
  generalize units (roundRank num den) = magnitude at *
  have low' : 2 * (num / den : ℚ) ≤ 2 * magnitude + step := by
    rw [← mul_div_assoc, div_le_iff₀ den_pos]
    have : (2 * num : ℚ) ≤ 2 * (magnitude * den) + den * step := by exact_mod_cast low
    linarith
  have high' : 2 * (magnitude : ℚ) ≤ 2 * (num / den) + step := by
    rw [← sub_le_iff_le_add, ← mul_div_assoc, le_div_iff₀ den_pos]
    have : (2 * (magnitude * den) : ℚ) ≤ 2 * num + den * step := by exact_mod_cast high
    linarith
  have narrow : (step : ℚ) ≤ 1 + num / den / 2 ^ 52 := by
    rcases width with rfl | small
    · have : (0 : ℚ) ≤ num / den / 2 ^ 52 := by positivity
      push_cast
      linarith
    · have : (step : ℚ) ≤ num / den / 2 ^ 52 := by
        rw [le_div_iff₀ (by positivity), le_div_iff₀ den_pos]
        have : (2 ^ 52 * (den * step) : ℚ) ≤ num := by exact_mod_cast small
        linarith
      linarith
  have split : (num / den / 2 ^ 52 : ℚ) = 2 * (num / den / 2 ^ 53) := by ring
  rw [abs_le]
  constructor <;> linarith

theorem abs_nearestMagnitude_sub_le {x : ℚ} (hx : 0 ≤ x) :
    |nearestMagnitude x - x| ≤ x / 2 ^ 53 + 1 / (2 * unitsOfOne) := by
  have unit := unitsOfOne_cast_pos
  have scaled := abs_eq_natAbs_div (x * unitsOfOne)
  rw [abs_mul, Nat.abs_cast, abs_of_nonneg hx] at scaled
  have inUnits := abs_units_roundRank_sub_le (x * unitsOfOne).num.natAbs
    (x * unitsOfOne).den_pos
  rw [← scaled] at inUnits
  calc |nearestMagnitude x - x|
      = |(units (roundRank (x * unitsOfOne).num.natAbs (x * unitsOfOne).den) : ℚ) -
          x * unitsOfOne| / unitsOfOne := by
        rw [← abs_of_pos unit, ← abs_div, abs_of_pos unit, sub_div,
          mul_div_cancel_right₀ _ unit.ne']
        rfl
    _ ≤ (1 / 2 + x * unitsOfOne / 2 ^ 53) / unitsOfOne := div_le_div_of_nonneg_right inUnits unit.le
    _ = x / 2 ^ 53 + 1 / (2 * unitsOfOne) := by
        field_simp
        ring

/-- Rounding moves a rational by little. -/
theorem abs_nearest_sub_le (x : ℚ) : |nearest x - x| ≤ |x| / 2 ^ 53 + 1 / (2 * unitsOfOne) := by
  rcases le_or_gt 0 x with nonneg | neg
  · rw [nearest_of_nonneg nonneg, abs_of_nonneg nonneg]
    exact abs_nearestMagnitude_sub_le nonneg
  · have mirrored := abs_nearestMagnitude_sub_le (x := -x) (by linarith)
    rw [nearestMagnitude_neg, sub_neg_eq_add] at mirrored
    rw [nearest, if_pos neg, abs_of_neg neg, ← neg_add', abs_neg]
    exact mirrored

/-- Half of the smallest positive value is nothing beside whole numbers. -/
theorem half_unit_le : (1 / (2 * unitsOfOne) : ℚ) ≤ 1 / 2 ^ 200 := by
  refine one_div_le_one_div_of_le (by norm_num) ?_
  have : (2 ^ 200 : ℚ) ≤ unitsOfOne := by
    rw [unitsOfOne_eq, Nat.cast_pow, Nat.cast_ofNat]
    exact pow_le_pow_right₀ (by norm_num) (by norm_num)
  linarith [unitsOfOne_cast_pos]

theorem nearest_le {x : ℚ} (hx : 0 ≤ x) : nearest x ≤ x * (1 + 1 / 2 ^ 53) + 1 / 2 ^ 200 := by
  have error := abs_nearest_sub_le x
  rw [abs_of_nonneg hx] at error
  linarith [(abs_le.1 error).2, half_unit_le]

theorem le_nearest {x : ℚ} (hx : 0 ≤ x) : x * (1 - 1 / 2 ^ 53) - 1 / 2 ^ 200 ≤ nearest x := by
  have error := abs_nearest_sub_le x
  rw [abs_of_nonneg hx] at error
  linarith [(abs_le.1 error).1, half_unit_le]

/-! ### The values of numbers -/

theorem toRat_finite (negative : Bool) (rank : Nat) (h : rank < 2047 * binade) :
    toRat (.finite negative rank h) = withSign negative (units rank) / unitsOfOne := rfl

/-- The value of a number is rounded to itself. -/
theorem nearest_toRat (number : Binary64) : nearest number.toRat = number.toRat := by
  cases number with
  | nan => exact nearest_zero
  | infinite negative => exact nearest_zero
  | finite negative rank h =>
      have unit := unitsOfOne_cast_pos
      have magnitude : nearest (units rank / unitsOfOne) = units rank / unitsOfOne := by
        have nonneg : (0 : ℚ) ≤ units rank / unitsOfOne :=
          div_nonneg (Nat.cast_nonneg _) (Nat.cast_nonneg _)
        have scaled :
            |(units rank / unitsOfOne : ℚ)| * unitsOfOne = (units rank : ℚ) / (1 : Nat) := by
          simp [abs_of_nonneg nonneg, unit.ne']
        rw [nearest_of_nonneg nonneg, nearestMagnitude_eq Nat.one_pos scaled, roundRank_units]
      rw [toRat_finite]
      cases negative with
      | false =>
          simpa [withSign] using magnitude
      | true =>
          simp only [withSign, if_true, Int.cast_neg, Int.cast_natCast, neg_div, nearest_neg,
            magnitude]

/-- A number that stands for a rational after rounding. -/
structure Rounds (number : Binary64) (x : ℚ) : Prop where
  finite : number.isFinite = true
  value : number.toRat = nearest x

/-- Half a step above the greatest finite number. -/
def limit : ℚ := limitUnits / unitsOfOne

theorem limit_eq : limit = (2 ^ 54 - 1) * 2 ^ 970 := by
  have inUnits : (limitUnits : ℚ) = (2 ^ 54 - 1) * 2 ^ 970 * unitsOfOne := by
    rw [limitUnits, unitsOfOne_eq, Nat.cast_mul, Nat.cast_pow, Nat.cast_pow, mul_assoc,
      Nat.cast_ofNat, ← pow_add]
    norm_num
  rw [limit, inUnits, mul_div_cancel_right₀ _ unitsOfOne_cast_pos.ne']

section
variable (negative : Bool) {num den : Nat} {x : ℚ} (hd : 0 < den)
  (hx : x = withSign negative num / (den * unitsOfOne))
include hd hx

theorem abs_mul_unitsOfOne : |x| * unitsOfOne = num / den := by
  have unit := unitsOfOne_cast_pos
  have den_pos : (0 : ℚ) < den := Nat.cast_pos.2 hd
  have sign : |(withSign negative num : ℚ)| = num := by
    cases negative <;> simp [withSign]
  rw [hx, abs_div, sign, abs_of_pos (mul_pos den_pos unit)]
  field_simp

/-- The number nearest to a ratio is finite exactly if the ratio is below the limit. -/
theorem isFinite_ofRatio_iff : (ofRatio negative num den).isFinite = true ↔ |x| < limit := by
  have unit := unitsOfOne_cast_pos
  have den_pos : (0 : ℚ) < den := Nat.cast_pos.2 hd
  have scaled := abs_mul_unitsOfOne negative hd hx
  have ranks : (ofRatio negative num den).isFinite = true ↔ roundRank num den < rankCount := by
    unfold ofRatio
    split <;> simp [isFinite, *]
  rw [ranks, roundRank_lt_rankCount_iff num hd, limit, lt_div_iff₀ unit, scaled,
    div_lt_iff₀ den_pos, mul_comm]
  exact_mod_cast Iff.rfl

/-- The value of a finite number that is nearest to a ratio. -/
theorem toRat_ofRatio (finite : (ofRatio negative num den).isFinite = true) :
    (ofRatio negative num den).toRat = nearest x := by
  have unit := unitsOfOne_cast_pos
  have den_pos : (0 : ℚ) < den := Nat.cast_pos.2 hd
  have magnitude := nearestMagnitude_eq hd (abs_mul_unitsOfOne negative hd hx)
  unfold ofRatio at finite ⊢
  split
  · rename_i fits
    refine (toRat_finite negative (roundRank num den) fits).trans ?_
    cases negative with
    | false =>
        have nonneg : 0 ≤ x := by
          rw [hx]
          simp only [withSign, Bool.false_eq_true, if_false, Int.cast_natCast]
          exact div_nonneg (Nat.cast_nonneg num) (mul_pos den_pos unit).le
        rw [nearest_of_nonneg nonneg, magnitude]
        simp [withSign]
    | true =>
        have nonneg : 0 ≤ -x := by
          rw [hx]
          simp only [withSign, if_true, Int.cast_neg, Int.cast_natCast, neg_div, neg_neg]
          exact div_nonneg (Nat.cast_nonneg num) (mul_pos den_pos unit).le
        rw [← neg_neg (nearest x), ← nearest_neg, nearest_of_nonneg nonneg, nearestMagnitude_neg,
          magnitude]
        simp [withSign, neg_div]
  · rename_i beyond
    rw [dif_neg beyond] at finite
    cases finite

/-- The number nearest to a ratio, unless the ratio is very large. -/
theorem rounds_ofRatio (small : |x| < 2 ^ 900) : Rounds (ofRatio negative num den) x := by
  have below : (2 : ℚ) ^ 900 ≤ limit := by
    rw [limit_eq]
    calc (2 : ℚ) ^ 900 ≤ 2 ^ 970 := pow_le_pow_right₀ (by norm_num) (by norm_num)
      _ ≤ (2 ^ 54 - 1) * 2 ^ 970 := le_mul_of_one_le_left (by positivity) (by norm_num)
  have finite := (isFinite_ofRatio_iff negative hd hx).2 (small.trans_le below)
  exact ⟨finite, toRat_ofRatio negative hd hx finite⟩

end

end AccessTrace.Binary64
