/-
Module: AccessTrace.Proofs.Quotas.Sum
Purpose: How far the sum of the planned quotas is from the count that was asked for.
Main exports:
  Quotas.sum, Quotas.sum_compute_le, Quotas.le_sum_compute
-/
import Mathlib
import AccessTrace.Proofs.Quotas.Split

namespace AccessTrace

open Binary64

/-!
The writes and the reads are each formed by a chain of rounded steps: the count
becomes a number, the read percentage is a difference, a product is formed and
divided by one hundred.  The bounds follow both chains step by step.  Every
step adds a part in 2^53 of what it gives, and five parts of 2^53 are less than
one of 2^50, so that cutting off hides the rest of it.
-/

namespace Quotas

/-- All planned accesses. -/
def sum (quotas : Quotas) : Int :=
  quotas.sequentialWrite.toInt + quotas.sequentialRead.toInt + quotas.randomWrite.toInt +
    quotas.randomRead.toInt

/-! ### The chains of the writes and of the reads -/

theorem hundredth_nonneg {x : ℚ} (hx : 0 ≤ x) : 0 ≤ nearest x / 100 :=
  div_nonneg (nearest_nonneg hx) (by norm_num)

section
variable {count writes reads : ℚ} (hcount : 0 ≤ count) (hwrites : 0 ≤ writes) (hreads : 0 ≤ reads)
include hcount hwrites hreads

/-- Two shares of a count, each rounded twice, from above. -/
theorem shares_le :
    nearest (nearest (count * writes) / 100) + nearest (nearest (count * reads) / 100) ≤
      (count * (writes + reads) * (1 + 1 / 2 ^ 53) + 2 / 2 ^ 200) / 100 * (1 + 1 / 2 ^ 53) +
        2 / 2 ^ 200 := by
  have w := nearest_le (mul_nonneg hcount hwrites)
  have r := nearest_le (mul_nonneg hcount hreads)
  have w' := nearest_le (hundredth_nonneg (mul_nonneg hcount hwrites))
  have r' := nearest_le (hundredth_nonneg (mul_nonneg hcount hreads))
  rw [mul_add]
  linarith

/-- Two shares of a count, each rounded twice, from below. -/
theorem le_shares :
    (count * (writes + reads) * (1 - 1 / 2 ^ 53) - 2 / 2 ^ 200) / 100 * (1 - 1 / 2 ^ 53) -
        2 / 2 ^ 200 ≤
      nearest (nearest (count * writes) / 100) + nearest (nearest (count * reads) / 100) := by
  have w := le_nearest (mul_nonneg hcount hwrites)
  have r := le_nearest (mul_nonneg hcount hreads)
  have w' := le_nearest (hundredth_nonneg (mul_nonneg hcount hwrites))
  have r' := le_nearest (hundredth_nonneg (mul_nonneg hcount hreads))
  rw [mul_add]
  linarith

end

/-- What is cut off from two numbers that are not negative is less than two,
unless one of them is beyond the 64-bit integers. -/
theorem percentFloor_add_bounds {x y : ℚ} (hx : 0 ≤ x) (hy : 0 ≤ y) :
    (percentFloor x + percentFloor y : ℚ) ≤ nearest (x / 100) + nearest (y / 100) ∧
      (nearest (x / 100) + nearest (y / 100) - 2 < percentFloor x + percentFloor y ∨
        2 ^ 63 - 1 ≤ percentFloor x + percentFloor y) := by
  have floor_x := Int.floor_le (nearest (x / 100))
  have floor_y := Int.floor_le (nearest (y / 100))
  have near_x := Int.lt_floor_add_one (nearest (x / 100))
  have near_y := Int.lt_floor_add_one (nearest (y / 100))
  have cut_x : (percentFloor x : ℚ) ≤ ⌊nearest (x / 100)⌋ := Int.cast_le.2 (min_le_left _ _)
  have cut_y : (percentFloor y : ℚ) ≤ ⌊nearest (y / 100)⌋ := Int.cast_le.2 (min_le_left _ _)
  have nonneg_x := percentFloor_nonneg hx
  have nonneg_y := percentFloor_nonneg hy
  constructor
  · linarith
  · by_cases inside : ⌊nearest (x / 100)⌋ ≤ 2 ^ 63 - 1 ∧ ⌊nearest (y / 100)⌋ ≤ 2 ^ 63 - 1
    · left
      rw [percentFloor, percentFloor, min_eq_left inside.1, min_eq_left inside.2]
      linarith
    · right
      unfold percentFloor at *
      omega

end Quotas

namespace Config

/-- The two percentages add up to nearly one hundred. -/
theorem percentages_add {config : Config} (ratios : config.RatiosInRange) :
    100 * (1 - 1 / 2 ^ 53) - 1 / 2 ^ 200 ≤ config.writeRatio.toRat + config.readRatio.toRat ∧
      config.writeRatio.toRat + config.readRatio.toRat ≤ 100 * (1 + 1 / 2 ^ 53) + 1 / 2 ^ 200 := by
  have nonneg := ratios.writeRatio_nonneg
  have rest : 0 ≤ 100 - config.writeRatio.toRat := by linarith [ratios.writeRatio_le]
  rw [(rounds_readRatio ratios).value]
  constructor
  · linarith [le_nearest rest]
  · linarith [nearest_le rest]

/-- Before anything is cut off, the writes and the reads together are the count
with an error of five parts in 2^53. -/
theorem shares_bounds {config : Config} (ratios : config.RatiosInRange)
    (positive : 0 < config.instructionCount.toNat) :
    let n : ℚ := config.instructionCount.toNat
    let shares := nearest (nearest (nearest n * config.writeRatio.toRat) / 100) +
      nearest (nearest (nearest n * config.readRatio.toRat) / 100)
    n - 5 / 2 ^ 53 * n - 1 / 8 ≤ shares ∧ shares ≤ n + 5 / 2 ^ 53 * n + 1 / 8 := by
  intro n shares
  have n_pos : 1 ≤ n := Nat.one_le_cast.2 positive
  have n_lt : n < 2 ^ 64 := by
    change (config.instructionCount.toNat : ℚ) < 2 ^ 64
    exact_mod_cast config.instructionCount.toNat_lt
  have writes := ratios.writeRatio_nonneg
  have reads := readRatio_nonneg ratios
  have count := nearest_nonneg (show 0 ≤ n by linarith)
  obtain ⟨low, high⟩ := percentages_add ratios
  have count_le := nearest_le (show 0 ≤ n by linarith)
  have le_count := le_nearest (show 0 ≤ n by linarith)
  have above := Quotas.shares_le count writes reads
  have below := Quotas.le_shares count writes reads
  have product_le : nearest n * (config.writeRatio.toRat + config.readRatio.toRat) ≤
      (n * (1 + 1 / 2 ^ 53) + 1 / 2 ^ 200) * (100 * (1 + 1 / 2 ^ 53) + 1 / 2 ^ 200) :=
    mul_le_mul count_le high (by linarith) (by linarith)
  have le_product :
      (n * (1 - 1 / 2 ^ 53) - 1 / 2 ^ 200) * (100 * (1 - 1 / 2 ^ 53) - 1 / 2 ^ 200) ≤
        nearest n * (config.writeRatio.toRat + config.readRatio.toRat) :=
    mul_le_mul le_count low (by norm_num) count
  constructor
  · linarith
  · linarith

/-- Five parts of 2^53 are less than the whole parts of 2^50 and one more. -/
theorem error_lt (n : Nat) : (5 / 2 ^ 53 * n : ℚ) + 1 / 8 < ((n : Int) / 2 ^ 50 : Int) + 1 := by
  have parts : 0 ≤ (n : Int) / 2 ^ 50 ∧ (n : Int) < ((n : Int) / 2 ^ 50 + 1) * 2 ^ 50 := by
    constructor <;> omega
  have nonneg : (0 : ℚ) ≤ ((n : Int) / 2 ^ 50 : Int) := Int.cast_nonneg parts.1
  have below := Int.cast_lt (R := ℚ).2 parts.2
  push_cast at nonneg below ⊢
  linarith

section
variable {config : Config} (checked : config.check = .ok ())
include checked

theorem instructionCount_pos : 0 < config.instructionCount.toNat := by
  obtain ⟨bounds, -⟩ := (check_eq_ok_iff config).1 checked
  exact ((checkBounds_eq_ok_iff config).1 bounds).2.1

/-- The sum of the quotas is what the two chains give after cutting off. -/
theorem sum_compute :
    (Quotas.compute config).sum =
      Quotas.percentFloor (nearest (nearest config.instructionCount.toNat *
          config.writeRatio.toRat)) +
        Quotas.percentFloor (nearest (nearest config.instructionCount.toNat *
          config.readRatio.toRat)) := by
  obtain ⟨⟨-, -, writes⟩, ⟨-, -, reads⟩⟩ := split_compute checked
  rw [← writes, ← reads, Quotas.sum]
  ring

/-- A plan has at most one access in 2^50 more than were asked for. -/
theorem sum_compute_le :
    (Quotas.compute config).sum ≤
      config.instructionCount.toNat + config.instructionCount.toNat / 2 ^ 50 := by
  have ratios := ratiosInRange checked
  have count := nearest_nonneg (Nat.cast_nonneg config.instructionCount.toNat)
  obtain ⟨total_le, -⟩ := Quotas.percentFloor_add_bounds
    (nearest_nonneg (mul_nonneg count ratios.writeRatio_nonneg))
    (nearest_nonneg (mul_nonneg count (readRatio_nonneg ratios)))
  obtain ⟨-, shares_le⟩ := shares_bounds ratios (instructionCount_pos checked)
  have error := error_lt config.instructionCount.toNat
  rw [sum_compute checked, ← Int.lt_add_one_iff, ← Int.cast_lt (R := ℚ)]
  push_cast at error ⊢
  linarith

/-- A plan falls short of what was asked for by at most two accesses and one in
2^50, unless more are asked for than a quota can be. -/
theorem le_sum_compute (moderate : config.instructionCount.toNat < 2 ^ 63) :
    (config.instructionCount.toNat : Int) - 2 - config.instructionCount.toNat / 2 ^ 50 ≤
      (Quotas.compute config).sum := by
  have ratios := ratiosInRange checked
  have count := nearest_nonneg (Nat.cast_nonneg config.instructionCount.toNat)
  obtain ⟨-, cut | saturated⟩ := Quotas.percentFloor_add_bounds
    (nearest_nonneg (mul_nonneg count ratios.writeRatio_nonneg))
    (nearest_nonneg (mul_nonneg count (readRatio_nonneg ratios)))
  · obtain ⟨le_shares, -⟩ := shares_bounds ratios (instructionCount_pos checked)
    have error := error_lt config.instructionCount.toNat
    rw [sum_compute checked, ← Int.sub_one_lt_iff, ← Int.cast_lt (R := ℚ)]
    push_cast at error ⊢
    linarith
  · rw [sum_compute checked]
    omega

end

end Config
end AccessTrace
