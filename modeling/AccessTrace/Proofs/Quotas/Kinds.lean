/-
Module: AccessTrace.Proofs.Quotas.Kinds
Purpose: How the quotas of the writes and of the reads depend on percentages and fractions.
Main exports:
  Config.toInt_burstsOf, Config.Apportioned, Config.apportioned
-/
import Mathlib
import AccessTrace.Proofs.Quotas.Sum

namespace AccessTrace

open Binary64

/-!
The two kinds of accesses are planned in the same way, each from a percentage
and a fraction of its own.  The percentage decides how many accesses there are
of a kind, and the fraction how many of them come in bursts.  All that is used
of rounding is that it keeps the order and leaves the values of numbers alone.
-/

/-- Adding up quotas that are not negative stays inside the words if neither kind is
more than a quota can be. -/
theorem Quotas.toNat_totalPositive {quotas : Quotas}
    (nonneg : ∀ kind, 0 ≤ (quotas.burstsOf kind).toInt ∧ 0 ≤ (quotas.singlesOf kind).toInt)
    (lt : ∀ kind, (quotas.burstsOf kind).toInt + (quotas.singlesOf kind).toInt < 2 ^ 63) :
    (quotas.totalPositive.toNat : Int) = quotas.sum := by
  have writes := nonneg .write
  have reads := nonneg .read
  have writes_lt := lt .write
  have reads_lt := lt .read
  rw [burstsOf_write, singlesOf_write] at writes writes_lt
  rw [burstsOf_read, singlesOf_read] at reads reads_lt
  simp only [totalPositive, sum, UInt64.toNat_add, toNat_work]
  omega

namespace Config

/-- What decides on the accesses of each kind. -/
theorem totalOf_congr {config other : Config}
    (count : other.instructionCount = config.instructionCount)
    (ratio : other.writeRatio = config.writeRatio) (kind : Kind) :
    other.totalOf kind = config.totalOf kind := by
  cases kind with
  | write => rw [totalOf, totalOf, percentOf, percentOf, count, ratio]
  | read => rw [totalOf, totalOf, percentOf, percentOf, readRatio, readRatio, count, ratio]

section
variable {config : Config} (ratios : config.RatiosInRange)
include ratios

/-- A kind that has no part of the accesses has a total of zero. -/
theorem toRat_totalOf_of_zero {kind : Kind} (zero : (config.percentOf kind).toRat = 0) :
    (config.totalOf kind).toRat = 0 := by
  rw [toRat_totalOf ratios kind, zero, mul_zero, nearest_zero]

/-- The bursts of a kind are a rounded product, of which a hundredth is cut off. -/
theorem toInt_burstsOf (kind : Kind) :
    ((Quotas.compute config).burstsOf kind).toInt =
      Quotas.percentFloor
        (nearest ((config.totalOf kind).toRat * (config.fractionOf kind).toRat)) := by
  obtain ⟨finite, nonneg, le_one⟩ := fractionOf_inRange ratios kind
  have total := moderate_totalOf ratios kind
  have part := (Quotas.moderate_mul_fraction total finite nonneg le_one).1
  rw [burstsOf_compute, Quotas.toInt_floorPercent part,
    (Quotas.rounds_mul_fraction total finite nonneg le_one).value]

/-- A kind that has no part of the accesses gets no quota. -/
theorem no_quota_of_zero {kind : Kind} (zero : (config.percentOf kind).toRat = 0) :
    ((Quotas.compute config).burstsOf kind).toInt = 0 ∧
      ((Quotas.compute config).singlesOf kind).toInt = 0 := by
  obtain ⟨bursts, singles, all⟩ := split_kind ratios kind
  have none : (Quotas.floorPercent (config.totalOf kind)).toInt = 0 := by
    rw [Quotas.toInt_floorPercent (moderate_totalOf ratios kind), toRat_totalOf_of_zero ratios zero,
      Quotas.percentFloor_zero]
  exact (add_eq_zero_iff_of_nonneg bursts singles).1 (all.trans none)

end

/-! ### The plan as a whole -/

/-- How the planned quotas depend on the parameters. -/
structure Apportioned (config : Config) : Prop where
  nonneg : ∀ kind, 0 ≤ ((Quotas.compute config).burstsOf kind).toInt ∧
    0 ≤ ((Quotas.compute config).singlesOf kind).toInt
  /-- Taking the bursts off all accesses of a kind stays inside the words. -/
  difference : ∀ kind, ((Quotas.compute config).singlesOf kind).toInt =
    (Quotas.floorPercent (config.totalOf kind)).toInt -
      ((Quotas.compute config).burstsOf kind).toInt
  /-- Adding up the quotas stays inside the words. -/
  total : ((Quotas.compute config).totalPositive.toNat : Int) = (Quotas.compute config).sum
  /-- The fractions have no part in how many accesses there are of a kind. -/
  independent : ∀ other : Config, other.check = .ok () →
    other.instructionCount = config.instructionCount → other.writeRatio = config.writeRatio →
      ∀ kind, ((Quotas.compute other).burstsOf kind).toInt +
          ((Quotas.compute other).singlesOf kind).toInt =
        ((Quotas.compute config).burstsOf kind).toInt +
          ((Quotas.compute config).singlesOf kind).toInt
  /-- A greater fraction of a kind gives no fewer bursts of it, whatever the other
  fraction is. -/
  monotone : ∀ other : Config, other.check = .ok () →
    other.instructionCount = config.instructionCount → other.writeRatio = config.writeRatio →
      ∀ kind, (config.fractionOf kind).le (other.fractionOf kind) = true →
        ((Quotas.compute config).burstsOf kind).toInt ≤
          ((Quotas.compute other).burstsOf kind).toInt
  noBursts : ∀ kind, (config.fractionOf kind).toRat = 0 →
    ((Quotas.compute config).burstsOf kind).toInt = 0
  onlyBursts : ∀ kind, (config.fractionOf kind).toRat = 1 →
    ((Quotas.compute config).burstsOf kind).toInt =
        (Quotas.floorPercent (config.totalOf kind)).toInt ∧
      ((Quotas.compute config).singlesOf kind).toInt = 0
  noReads : config.writeRatio.toRat = 100 →
    ((Quotas.compute config).burstsOf .read).toInt = 0 ∧
      ((Quotas.compute config).singlesOf .read).toInt = 0
  noWrites : config.writeRatio.toRat = 0 →
    ((Quotas.compute config).burstsOf .write).toInt = 0 ∧
      ((Quotas.compute config).singlesOf .write).toInt = 0

theorem toNat_totalPositive {config : Config} (ratios : config.RatiosInRange) :
    ((Quotas.compute config).totalPositive.toNat : Int) = (Quotas.compute config).sum := by
  apply Quotas.toNat_totalPositive
  · intro kind
    obtain ⟨bursts, singles, -⟩ := split_kind ratios kind
    exact ⟨bursts, singles⟩
  · intro kind
    obtain ⟨-, -, all⟩ := split_kind ratios kind
    rw [all]
    exact Int64.toInt_lt _

/-- The quotas that follow from parameters in range. -/
theorem apportioned {config : Config} (checked : config.check = .ok ()) : config.Apportioned := by
  have ratios := ratiosInRange checked
  constructor
  · intro kind
    obtain ⟨bursts, singles, -⟩ := split_kind ratios kind
    exact ⟨bursts, singles⟩
  · intro kind
    obtain ⟨-, -, all⟩ := split_kind ratios kind
    exact eq_sub_of_add_eq' all
  · exact toNat_totalPositive ratios
  · intro other checkedOther count ratio kind
    obtain ⟨-, -, all⟩ := split_kind ratios kind
    obtain ⟨-, -, allOther⟩ := split_kind (ratiosInRange checkedOther) kind
    rw [allOther, all, totalOf_congr count ratio]
  · intro other checkedOther count ratio kind le
    have ratiosOther := ratiosInRange checkedOther
    obtain ⟨finite, -, -⟩ := fractionOf_inRange ratios kind
    obtain ⟨finiteOther, -, -⟩ := fractionOf_inRange ratiosOther kind
    rw [le_iff_toRat_le finite finiteOther] at le
    rw [toInt_burstsOf ratios, toInt_burstsOf ratiosOther, totalOf_congr count ratio]
    apply Quotas.percentFloor_mono
    apply nearest_mono
    exact mul_le_mul_of_nonneg_left le (moderate_totalOf ratios kind).nonneg
  · intro kind zero
    rw [toInt_burstsOf ratios, zero, mul_zero, nearest_zero, Quotas.percentFloor_zero]
  · intro kind one
    obtain ⟨-, -, all⟩ := split_kind ratios kind
    have bursts : ((Quotas.compute config).burstsOf kind).toInt =
        (Quotas.floorPercent (config.totalOf kind)).toInt := by
      rw [toInt_burstsOf ratios, one, mul_one, nearest_toRat,
        Quotas.toInt_floorPercent (moderate_totalOf ratios kind)]
    rw [bursts] at all
    exact ⟨bursts, add_eq_left.1 all⟩
  · intro hundred
    apply no_quota_of_zero ratios
    rw [percentOf, (rounds_readRatio ratios).value, hundred, sub_self, nearest_zero]
  · intro zero
    exact no_quota_of_zero ratios zero

/-- The greatest count, only writes, a third of them in bursts. -/
def greatestWrites : Config where
  maxAddress := 0xFFFFFFFFFFFFFFFF
  instructionCount := 0xFFFFFFFFFFFFFFFF
  writeRatio := .hundred
  writeSequentialFraction := .ofNat 1 / .ofNat 3

/-- All writes together are cut off at the greatest quota, and so a burst that is
not cut off leaves fewer single writes than its fraction says. -/
theorem apportioned_greatestWrites :
    greatestWrites.check = .ok () ∧
      ((Quotas.compute greatestWrites).burstsOf .write).toInt = 6148914691236515840 ∧
      ((Quotas.compute greatestWrites).singlesOf .write).toInt =
        9223372036854775807 - 6148914691236515840 ∧
      ((Quotas.compute greatestWrites).burstsOf .read).toInt = 0 ∧
      ((Quotas.compute greatestWrites).singlesOf .read).toInt = 0 := by
  have checked : greatestWrites.check = .ok () := by decide +kernel
  have plan := apportioned checked
  have hundred : greatestWrites.writeRatio.toRat = 100 := by
    simp only [greatestWrites, Quotas.toRat_hundred]
  have bursts : ((Quotas.compute greatestWrites).burstsOf .write).toInt = 6148914691236515840 := by
    decide +kernel
  have writes : (Quotas.floorPercent (greatestWrites.totalOf .write)).toInt =
      9223372036854775807 := by decide +kernel
  have singles := plan.difference .write
  rw [writes, bursts] at singles
  exact ⟨checked, bursts, singles, plan.noReads hundred⟩

end Config
end AccessTrace
