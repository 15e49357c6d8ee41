/-
Module: AccessTrace.Proofs.Binary64.Arithmetic
Purpose: Each operation on finite numbers gives the exact result, rounded once.
Main exports:
  Binary64.isNegative, Binary64.eq_of_toRat, Binary64.rounds_mul, Binary64.rounds_sub,
  Binary64.rounds_div, Binary64.rounds_ofInt, Binary64.nearest_dyadic, Binary64.toRat_ofNat,
  Binary64.le_iff_toRat_le, Binary64.toInt_floorInt64
-/
import Mathlib
import AccessTrace.Proofs.Binary64.Nearest

namespace AccessTrace.Binary64

/-! ### Signs -/

theorem withSign_mul (negative negative' : Bool) (magnitude magnitude' : Nat) :
    withSign (negative != negative') (magnitude * magnitude') =
      withSign negative magnitude * withSign negative' magnitude' := by
  cases negative <;> cases negative' <;> simp [withSign]

theorem withSign_natAbs (value : Int) : withSign (decide (value < 0)) value.natAbs = value := by
  unfold withSign
  rcases lt_or_ge value 0 with below | above
  · rw [if_pos (decide_eq_true below)]
    omega
  · rw [if_neg (by simpa using above)]
    omega

theorem withSign_eq_zero_iff (negative : Bool) (magnitude : Nat) :
    withSign negative magnitude = 0 ↔ magnitude = 0 := by
  cases negative <;> simp [withSign]

/-- A finite number is given by its sign and its rank. -/
theorem eq_finite_of_isFinite {number : Binary64} (finite : number.isFinite = true) :
    ∃ negative rank h, number = .finite negative rank h := by
  cases number with
  | nan => cases finite
  | infinite negative => cases finite
  | finite negative rank h => exact ⟨negative, rank, h, rfl⟩

/-- Whether a number has a minus sign in front of it, which zero may have as well. -/
def isNegative : Binary64 → Bool
  | .nan => false
  | .infinite negative => negative
  | .finite negative _ _ => negative

theorem isNegative_ofRatio (negative : Bool) (num den : Nat) :
    (ofRatio negative num den).isNegative = negative := by
  unfold ofRatio
  split <;> rfl

/-- The sign of a number that is not zero is that of its value. -/
theorem isNegative_of_toRat {number : Binary64} (finite : number.isFinite = true)
    (nonzero : number.toRat ≠ 0) : number.isNegative = decide (number.toRat < 0) := by
  obtain ⟨negative, rank, h, rfl⟩ := eq_finite_of_isFinite finite
  have nonneg : (0 : ℚ) ≤ units rank / unitsOfOne :=
    div_nonneg (Nat.cast_nonneg _) unitsOfOne_cast_pos.le
  rw [toRat_finite] at nonzero ⊢
  cases negative with
  | false => simpa [isNegative, withSign] using nonneg
  | true =>
      have opposite : ((withSign true (units rank) : Int) : ℚ) / unitsOfOne =
          -(units rank / unitsOfOne) := by
        simp [withSign, neg_div]
      rw [opposite] at nonzero ⊢
      have positive := lt_of_le_of_ne nonneg (Ne.symm (neg_ne_zero.1 nonzero))
      simpa [isNegative] using positive

/-- A finite number is given by its value and its sign. -/
theorem eq_of_toRat {first second : Binary64} (hfirst : first.isFinite = true)
    (hsecond : second.isFinite = true) (value : first.toRat = second.toRat)
    (sign : first.isNegative = second.isNegative) : first = second := by
  obtain ⟨negative, rank, h, rfl⟩ := eq_finite_of_isFinite hfirst
  obtain ⟨negative', rank', h', rfl⟩ := eq_finite_of_isFinite hsecond
  obtain rfl : negative = negative' := sign
  have magnitude : withSign negative (units rank) = withSign negative (units rank') := by
    rw [toRat_finite, toRat_finite, div_left_inj' unitsOfOne_cast_pos.ne'] at value
    exact_mod_cast value
  have same : units rank = units rank' := by
    cases negative <;> simpa [withSign] using magnitude
  obtain rfl := units_strictMono.injective same
  rfl

/-! ### The operations -/

theorem toRat_zero (negative : Bool) : (zero negative).toRat = 0 := by
  cases negative <;> simp [zero, toRat, units, withSign, binade_pos]

/-- An integer that a word holds is only rounded. -/
theorem rounds_ofInt {value : Int} (small : value.natAbs < 2 ^ 64) :
    Rounds (ofInt value) value := by
  have unit := unitsOfOne_cast_pos
  refine rounds_ofRatio (decide (value < 0)) Nat.one_pos ?_ ?_
  · have scaled := withSign_mul (decide (value < 0)) false value.natAbs unitsOfOne
    rw [withSign_natAbs, Bool.bne_false] at scaled
    rw [scaled, Nat.cast_one, one_mul, withSign, if_neg Bool.false_ne_true, Int.cast_mul,
      Int.cast_natCast, mul_div_cancel_right₀ _ unit.ne']
  · have bound : (value.natAbs : ℚ) < 2 ^ 64 := by exact_mod_cast small
    rw [Nat.cast_natAbs, Int.cast_abs] at bound
    exact bound.trans (pow_lt_pow_right₀ (by norm_num) (by norm_num))

/-- The two ways to make a number of a whole one agree. -/
theorem ofInt_natCast (n : Nat) : ofInt n = ofNat n := by
  have nonneg : ¬ (n : Int) < 0 := not_lt.2 (Int.natCast_nonneg n)
  rw [ofInt, ofNat, Int.natAbs_natCast, decide_eq_false nonneg]

theorem rounds_ofNat {n : Nat} (small : n < 2 ^ 64) : Rounds (ofNat n) n := by
  have rounds : Rounds (ofInt n) n := rounds_ofInt (by simpa using small)
  rwa [ofInt_natCast] at rounds

section
variable {first second : Binary64}
  (hfirst : first.isFinite = true) (hsecond : second.isFinite = true)
include hfirst hsecond

theorem rounds_mul (small : |first.toRat * second.toRat| < 2 ^ 900) :
    Rounds (first * second) (first.toRat * second.toRat) := by
  obtain ⟨negative, rank, h, rfl⟩ := eq_finite_of_isFinite hfirst
  obtain ⟨negative', rank', h', rfl⟩ := eq_finite_of_isFinite hsecond
  refine rounds_ofRatio (negative != negative') unitsOfOne_pos ?_ small
  rw [withSign_mul, toRat_finite, toRat_finite, div_mul_div_comm, Int.cast_mul]

theorem rounds_div (nonzero : second.toRat ≠ 0) (small : |first.toRat / second.toRat| < 2 ^ 900) :
    Rounds (first / second) (first.toRat / second.toRat) := by
  have unit := unitsOfOne_cast_pos
  obtain ⟨negative, rank, h, rfl⟩ := eq_finite_of_isFinite hfirst
  obtain ⟨negative', rank', h', rfl⟩ := eq_finite_of_isFinite hsecond
  have divisor : units rank' ≠ 0 := by
    intro zero
    rw [toRat_finite, zero, (withSign_eq_zero_iff _ _).2 rfl] at nonzero
    simp at nonzero
  have rank_ne : rank' ≠ 0 := by
    rintro rfl
    exact divisor (by simp [units, binade_pos])
  have operation : (finite negative rank h / finite negative' rank' h' : Binary64) =
      ofRatio (negative != negative') (units rank * unitsOfOne) (units rank') := by
    change div _ _ = _
    simp only [div, if_neg rank_ne]
  rw [operation]
  refine rounds_ofRatio (negative != negative') (Nat.pos_of_ne_zero divisor) ?_ small
  rw [toRat_finite, toRat_finite, div_div_div_cancel_right₀ unit.ne']
  have positive : (0 : ℚ) < units rank' := Nat.cast_pos.2 (Nat.pos_of_ne_zero divisor)
  cases negative <;> cases negative' <;> simp [withSign] <;> field_simp

theorem rounds_sub (small : |first.toRat - second.toRat| < 2 ^ 900) :
    Rounds (first - second) (first.toRat - second.toRat) := by
  obtain ⟨negative, rank, h, rfl⟩ := eq_finite_of_isFinite hfirst
  obtain ⟨negative', rank', h', rfl⟩ := eq_finite_of_isFinite hsecond
  have exact : toRat (.finite negative rank h) - toRat (.finite negative' rank' h') =
      ((withSign negative (units rank) - withSign negative' (units rank') : Int) : ℚ) /
        unitsOfOne := by
    rw [toRat_finite, toRat_finite, ← sub_div, Int.cast_sub]
  rw [exact] at small ⊢
  change Rounds (sub _ _) _
  unfold sub
  dsimp only
  split
  · rename_i none
    rw [none, Int.cast_zero, zero_div]
    exact ⟨rfl, by rw [toRat_zero, nearest_zero]⟩
  · refine rounds_ofRatio _ Nat.one_pos ?_ small
    rw [withSign_natAbs, Nat.cast_one, one_mul]

end

/-! ### Exact values -/

/-- A count of 53 binary digits of steps is not rounded. -/
theorem units_roundRank_mul_two_pow {m : Nat} (small : m < 2 ^ 53) (exponent : Nat) :
    units (roundRank (m * 2 ^ exponent) 1) = m * 2 ^ exponent := by
  rw [units_roundRank _ Nat.one_pos, Nat.div_one, one_mul]
  have most : Nat.log2 (m * 2 ^ exponent) - 52 ≤ exponent := by
    rcases Nat.eq_zero_or_pos m with rfl | some
    · simp
    · have := (Nat.log2_lt (Nat.mul_pos some (Nat.two_pow_pos exponent)).ne').2
        (show m * 2 ^ exponent < 2 ^ (53 + exponent) by
          rw [pow_add]
          exact Nat.mul_lt_mul_of_pos_right small (Nat.two_pow_pos _))
      omega
  generalize Nat.log2 (m * 2 ^ exponent) - 52 = shift at *
  have divides : 2 ^ shift ∣ m * 2 ^ exponent := Dvd.dvd.mul_left (Nat.pow_dvd_pow 2 most) m
  obtain ⟨steps, h⟩ := exists_eq_mul_left_of_dvd divides
  rw [h, roundHalfEven_mul _ (Nat.two_pow_pos _)]

/-- A whole number of 53 binary digits over a power of two is not rounded. -/
theorem nearest_dyadic {m exponent : Nat} (small : m < 2 ^ 53) (le : exponent ≤ 1074) :
    nearest (m / 2 ^ exponent) = m / 2 ^ exponent := by
  have unit := unitsOfOne_cast_pos
  have nonneg : (0 : ℚ) ≤ m / 2 ^ exponent :=
    div_nonneg (Nat.cast_nonneg m) (pow_nonneg zero_le_two exponent)
  have inUnits : (unitsOfOne : ℚ) = 2 ^ (1074 - exponent) * 2 ^ exponent := by
    have split : 1074 = 1074 - exponent + exponent := by omega
    rw [← pow_add, ← split, unitsOfOne_eq, Nat.cast_pow, Nat.cast_ofNat]
  have ratio : |(m / 2 ^ exponent : ℚ)| * unitsOfOne =
      ((m * 2 ^ (1074 - exponent) : Nat) : ℚ) / (1 : Nat) := by
    rw [abs_of_nonneg nonneg, inUnits]
    push_cast
    field_simp
  rw [nearest_of_nonneg nonneg, nearestMagnitude_eq Nat.one_pos ratio,
    units_roundRank_mul_two_pow small, inUnits]
  push_cast
  field_simp

/-- A whole number of 53 binary digits is a value. -/
theorem toRat_ofNat {n : Nat} (small : n < 2 ^ 53) : (ofNat n).toRat = n := by
  have rounds : Rounds (ofNat n) n := rounds_ofNat (small.trans (by decide))
  have exact := nearest_dyadic small (Nat.zero_le 1074)
  rw [pow_zero, div_one] at exact
  rw [rounds.value, exact]

theorem isFinite_ofInt {value : Int} (small : value.natAbs < 2 ^ 64) :
    (ofInt value).isFinite = true :=
  (rounds_ofInt small).finite

theorem isFinite_ofNat {n : Nat} (small : n < 2 ^ 64) : (ofNat n).isFinite = true :=
  (rounds_ofNat small).finite

theorem isFinite_ofNat_of_lt {n : Nat} (small : n < 2 ^ 53) : (ofNat n).isFinite = true :=
  isFinite_ofNat (small.trans (by decide))

/-! ### The order and the floor -/

theorem le_iff_toRat_le {first second : Binary64} (hfirst : first.isFinite = true)
    (hsecond : second.isFinite = true) : first.le second = true ↔ first.toRat ≤ second.toRat := by
  obtain ⟨negative, rank, h, rfl⟩ := eq_finite_of_isFinite hfirst
  obtain ⟨negative', rank', h', rfl⟩ := eq_finite_of_isFinite hsecond
  rw [toRat_finite, toRat_finite, div_le_div_iff_of_pos_right unitsOfOne_cast_pos, Int.cast_le]
  simp [le]

/-- What lies between finite numbers is finite. -/
theorem isFinite_of_between {least number greatest : Binary64} (hleast : least.isFinite = true)
    (hgreatest : greatest.isFinite = true) (above : least.le number = true)
    (below : number.le greatest = true) : number.isFinite = true := by
  obtain ⟨negative, rank, h, rfl⟩ := eq_finite_of_isFinite hleast
  obtain ⟨negative', rank', h', rfl⟩ := eq_finite_of_isFinite hgreatest
  cases number with
  | nan => simp [le] at above
  | infinite negative =>
      cases negative with
      | false => simp [le] at below
      | true => simp [le] at above
  | finite => rfl

theorem toInt_clampInt64 (value : Int) :
    (clampInt64 value).toInt = max (-2 ^ 63) (min value (2 ^ 63 - 1)) := by
  rw [clampInt64, Int64.toInt_ofInt_of_le (by omega) (by omega)]
  norm_num

/-- The floor of a finite number, kept inside the 64-bit integers. -/
theorem toInt_floorInt64 {number : Binary64} (finite : number.isFinite = true) :
    number.floorInt64.toInt = max (-2 ^ 63) (min ⌊number.toRat⌋ (2 ^ 63 - 1)) := by
  obtain ⟨negative, rank, h, rfl⟩ := eq_finite_of_isFinite finite
  rw [floorInt64, toInt_clampInt64, toRat_finite, Rat.floor_intCast_div_natCast]

end AccessTrace.Binary64
