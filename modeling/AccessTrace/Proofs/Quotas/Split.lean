/-
Module: AccessTrace.Proofs.Quotas.Split
Purpose: How the planned quotas split the writes and the reads of a run.
Main exports:
  Config.totalOf, Quotas.burstsOf, Quotas.singlesOf, Quotas.percentFloor,
  Quotas.toInt_floorPercent, Quotas.split, Config.split_kind, Config.split_compute
-/
import Mathlib
import AccessTrace.Proofs.Binary64.Arithmetic
import AccessTrace.Proofs.Config.Plan

namespace AccessTrace

open Binary64

/-!
The accesses of a kind are counted as one hundredth of a product, rounded and
cut off.  The bursts among them are counted from that product times a fraction.
A fraction is at most one and rounding keeps the order, so there are never more
of them than there are accesses of the kind, and the rest is not negative.
-/

/-- The percentage of the accesses that are of a kind. -/
def Config.percentOf (config : Config) : Kind → Binary64
  | .write => config.writeRatio
  | .read => config.readRatio

/-- The part of a kind that comes in bursts. -/
def Config.fractionOf (config : Config) : Kind → Binary64
  | .write => config.writeSequentialFraction
  | .read => config.readSequentialFraction

/-- One hundred times the accesses of a kind, before anything is cut off. -/
def Config.totalOf (config : Config) (kind : Kind) : Binary64 :=
  .ofNat config.instructionCount.toNat * config.percentOf kind

/-- The accesses of a kind that come in bursts. -/
def Quotas.burstsOf (quotas : Quotas) : Kind → Int64
  | .write => quotas.sequentialWrite
  | .read => quotas.sequentialRead

/-- The accesses of a kind that come one by one. -/
def Quotas.singlesOf (quotas : Quotas) : Kind → Int64
  | .write => quotas.randomWrite
  | .read => quotas.randomRead

@[simp] theorem Quotas.burstsOf_write (quotas : Quotas) :
    quotas.burstsOf .write = quotas.sequentialWrite := rfl
@[simp] theorem Quotas.burstsOf_read (quotas : Quotas) :
    quotas.burstsOf .read = quotas.sequentialRead := rfl
@[simp] theorem Quotas.singlesOf_write (quotas : Quotas) :
    quotas.singlesOf .write = quotas.randomWrite := rfl
@[simp] theorem Quotas.singlesOf_read (quotas : Quotas) :
    quotas.singlesOf .read = quotas.randomRead := rfl

namespace Quotas

/-- One hundredth of a rational, rounded, cut off and kept inside the 64-bit
integers. -/
def percentFloor (x : ℚ) : Int :=
  min ⌊nearest (x / 100)⌋ (2 ^ 63 - 1)

theorem percentFloor_mono {x y : ℚ} (le : x ≤ y) : percentFloor x ≤ percentFloor y := by
  refine min_le_min_right _ (Int.floor_le_floor (nearest_mono ?_))
  linarith

theorem percentFloor_zero : percentFloor 0 = 0 := by
  rw [percentFloor, zero_div, nearest_zero, Int.floor_zero]
  exact min_eq_left (by norm_num)

theorem percentFloor_nonneg {x : ℚ} (hx : 0 ≤ x) : 0 ≤ percentFloor x := by
  refine le_min (Int.floor_nonneg.2 (nearest_nonneg ?_)) (by norm_num)
  linarith

theorem toRat_hundred : hundred.toRat = 100 := by
  rw [hundred, toRat_ofNat (by norm_num), Nat.cast_ofNat]

theorem nearest_hundred : nearest 100 = 100 := by
  rw [← toRat_hundred, nearest_toRat]

theorem isFinite_hundred : hundred.isFinite = true :=
  isFinite_ofNat_of_lt (by norm_num)

/-- A finite number that is not negative and far from the end of the numbers. -/
structure Moderate (number : Binary64) : Prop where
  finite : number.isFinite = true
  nonneg : 0 ≤ number.toRat
  small : number.toRat < 2 ^ 900

theorem toInt_floorPercent {number : Binary64} (moderate : Moderate number) :
    (floorPercent number).toInt = percentFloor number.toRat := by
  obtain ⟨finite, nonneg, small⟩ := moderate
  have hundredth : 0 ≤ number.toRat / 100 := by positivity
  have rounds : Rounds (number / hundred) (number.toRat / 100) := by
    have quotient := rounds_div finite isFinite_hundred
    rw [toRat_hundred, abs_of_nonneg hundredth] at quotient
    exact quotient (by norm_num) ((div_le_self nonneg (by norm_num)).trans_lt small)
  have floor : 0 ≤ ⌊nearest (number.toRat / 100)⌋ := Int.floor_nonneg.2 (nearest_nonneg hundredth)
  rw [floorPercent, toInt_floorInt64 rounds.finite, rounds.value, percentFloor]
  omega

section
variable {total fraction : Binary64} (moderate : Moderate total)
  (finite : fraction.isFinite = true) (nonneg : 0 ≤ fraction.toRat) (le_one : fraction.toRat ≤ 1)
include moderate finite nonneg le_one

theorem rounds_mul_fraction : Rounds (total * fraction) (total.toRat * fraction.toRat) := by
  have product_le : total.toRat * fraction.toRat ≤ total.toRat :=
    mul_le_of_le_one_right moderate.nonneg le_one
  refine rounds_mul moderate.finite finite ?_
  rw [abs_of_nonneg (mul_nonneg moderate.nonneg nonneg)]
  exact product_le.trans_lt moderate.small

/-- A number times a fraction is no greater than the number. -/
theorem moderate_mul_fraction :
    Moderate (total * fraction) ∧ (total * fraction).toRat ≤ total.toRat := by
  have rounds := rounds_mul_fraction moderate finite nonneg le_one
  have le : (total * fraction).toRat ≤ total.toRat := by
    rw [rounds.value]
    exact (nearest_mono (mul_le_of_le_one_right moderate.nonneg le_one)).trans_eq
      (nearest_toRat total)
  refine ⟨⟨rounds.finite, ?_, le.trans_lt moderate.small⟩, le⟩
  rw [rounds.value]
  exact nearest_nonneg (mul_nonneg moderate.nonneg nonneg)

/-- The bursts and the other accesses of a kind are both counted without an
overflow, and together they are all accesses of the kind. -/
theorem split :
    0 ≤ (floorPercent (total * fraction)).toInt ∧
      0 ≤ (floorPercent total - floorPercent (total * fraction)).toInt ∧
      (floorPercent (total * fraction)).toInt +
        (floorPercent total - floorPercent (total * fraction)).toInt =
          percentFloor total.toRat := by
  obtain ⟨part, le⟩ := moderate_mul_fraction moderate finite nonneg le_one
  have wholeInt := toInt_floorPercent moderate
  have partInt := toInt_floorPercent part
  have part_nonneg := percentFloor_nonneg part.nonneg
  have part_le := percentFloor_mono le
  have most := (floorPercent total).toInt_lt
  have difference : (floorPercent total - floorPercent (total * fraction)).toInt =
      (floorPercent total).toInt - (floorPercent (total * fraction)).toInt := by
    rw [Int64.toInt_sub]
    exact Int.bmod_eq_of_le (by omega) (by omega)
  omega

end

/-- The work in a quota is counted without an overflow. -/
theorem toNat_work (quota : Int64) : (work quota).toNat = quota.toInt.toNat := by
  have below := quota.toInt_lt
  apply UInt64.toNat_ofNat_of_lt'
  change quota.toInt.toNat < 2 ^ 64
  omega

end Quotas

namespace Config

/-- The checks bound the ratios of a configuration. -/
structure RatiosInRange (config : Config) : Prop where
  writeRatio_finite : config.writeRatio.isFinite = true
  writeRatio_nonneg : 0 ≤ config.writeRatio.toRat
  writeRatio_le : config.writeRatio.toRat ≤ 100
  writeFraction_finite : config.writeSequentialFraction.isFinite = true
  writeFraction_nonneg : 0 ≤ config.writeSequentialFraction.toRat
  writeFraction_le : config.writeSequentialFraction.toRat ≤ 1
  readFraction_finite : config.readSequentialFraction.isFinite = true
  readFraction_nonneg : 0 ≤ config.readSequentialFraction.toRat
  readFraction_le : config.readSequentialFraction.toRat ≤ 1

/-- A number is between two small whole numbers in the order of the numbers
exactly if its value is. -/
theorem between_ofNat_iff (number : Binary64) {least greatest : Nat} (hleast : least < 2 ^ 53)
    (hgreatest : greatest < 2 ^ 53) :
    ((Binary64.ofNat least).le number = true ∧ number.le (.ofNat greatest) = true) ↔
      number.isFinite = true ∧ least ≤ number.toRat ∧ number.toRat ≤ greatest := by
  have finiteLeast := isFinite_ofNat_of_lt hleast
  have finiteGreatest := isFinite_ofNat_of_lt hgreatest
  constructor
  · rintro ⟨above, below⟩
    have finite := isFinite_of_between finiteLeast finiteGreatest above below
    rw [le_iff_toRat_le finiteLeast finite, toRat_ofNat hleast] at above
    rw [le_iff_toRat_le finite finiteGreatest, toRat_ofNat hgreatest] at below
    exact ⟨finite, above, below⟩
  · rintro ⟨finite, above, below⟩
    rw [le_iff_toRat_le finiteLeast finite, toRat_ofNat hleast]
    rw [le_iff_toRat_le finite finiteGreatest, toRat_ofNat hgreatest]
    exact ⟨above, below⟩

theorem ratiosInRange {config : Config} (checked : config.check = .ok ()) :
    config.RatiosInRange := by
  obtain ⟨-, ratios⟩ := (check_eq_ok_iff config).1 checked
  obtain ⟨write, writeFraction, readFraction⟩ := (checkRatios_eq_ok_iff config).1 ratios
  obtain ⟨wf, wl, wu⟩ := (between_ofNat_iff _ (by norm_num) (by norm_num)).1 write
  obtain ⟨ff, fl, fu⟩ := (between_ofNat_iff _ (by norm_num) (by norm_num)).1 writeFraction
  obtain ⟨gf, gl, gu⟩ := (between_ofNat_iff _ (by norm_num) (by norm_num)).1 readFraction
  exact ⟨wf, by simpa using wl, by simpa using wu, ff, by simpa using fl, by simpa using fu,
    gf, by simpa using gl, by simpa using gu⟩

/-! ### The totals of a configuration -/

/-- The count of the accesses that are asked for, as a number. -/
theorem rounds_count (config : Config) :
    Rounds (.ofNat config.instructionCount.toNat) config.instructionCount.toNat :=
  rounds_ofNat config.instructionCount.toNat_lt

/-- No rounded count is above the least power of two that no count reaches. -/
theorem nearest_count_le (config : Config) :
    nearest config.instructionCount.toNat ≤ 2 ^ 65 := by
  have most : (config.instructionCount.toNat : ℚ) < 2 ^ 64 := by
    exact_mod_cast config.instructionCount.toNat_lt
  linarith [nearest_le (Nat.cast_nonneg config.instructionCount.toNat)]

section
variable {config : Config} (ratios : config.RatiosInRange)
include ratios

/-- The reads in percent: the rest of the writes, rounded. -/
theorem rounds_readRatio : Rounds config.readRatio (100 - config.writeRatio.toRat) := by
  have difference := rounds_sub Quotas.isFinite_hundred ratios.writeRatio_finite
  rw [Quotas.toRat_hundred] at difference
  refine difference ?_
  have := ratios.writeRatio_nonneg
  have := ratios.writeRatio_le
  rw [abs_of_nonneg (by linarith)]
  calc 100 - config.writeRatio.toRat ≤ 100 := by linarith
    _ < 2 ^ 7 := by norm_num
    _ ≤ 2 ^ 900 := pow_le_pow_right₀ (by norm_num) (by norm_num)

theorem readRatio_le : config.readRatio.toRat ≤ 100 := by
  have := ratios.writeRatio_nonneg
  rw [(rounds_readRatio ratios).value]
  calc nearest (100 - config.writeRatio.toRat) ≤ nearest 100 := nearest_mono (by linarith)
    _ = 100 := Quotas.nearest_hundred

theorem readRatio_nonneg : 0 ≤ config.readRatio.toRat := by
  rw [(rounds_readRatio ratios).value]
  exact nearest_nonneg (by linarith [ratios.writeRatio_le])

end

/-- The count times a percentage. -/
theorem count_mul_percent (config : Config) {percent : Binary64}
    (finite : percent.isFinite = true) (nonneg : 0 ≤ percent.toRat) (le : percent.toRat ≤ 100) :
    Quotas.Moderate (.ofNat config.instructionCount.toNat * percent) ∧
      (.ofNat config.instructionCount.toNat * percent : Binary64).toRat =
        nearest (nearest config.instructionCount.toNat * percent.toRat) := by
  have count := rounds_count config
  have count_nonneg : 0 ≤ nearest (config.instructionCount.toNat : ℚ) :=
    nearest_nonneg (Nat.cast_nonneg _)
  have exact_nonneg := mul_nonneg count_nonneg nonneg
  have exact_le : nearest config.instructionCount.toNat * percent.toRat ≤ 2 ^ 65 * 100 :=
    mul_le_mul (nearest_count_le config) le nonneg (by norm_num)
  have huge : (2 ^ 74 : ℚ) < 2 ^ 900 := pow_lt_pow_right₀ (by norm_num) (by norm_num)
  have rounds : Rounds (.ofNat config.instructionCount.toNat * percent)
      (nearest config.instructionCount.toNat * percent.toRat) := by
    rw [← count.value]
    refine rounds_mul count.finite finite ?_
    rw [count.value, abs_of_nonneg exact_nonneg]
    exact lt_trans (by linarith) huge
  refine ⟨⟨rounds.finite, ?_, ?_⟩, rounds.value⟩
  · rw [rounds.value]
    exact nearest_nonneg exact_nonneg
  · rw [rounds.value]
    exact lt_trans (by linarith [nearest_le exact_nonneg]) huge

/-! ### The accesses of one kind -/

-- Both sides of the next equations are the same once the plan is unfolded.  They
-- are compared without unfolding anything else, as the arithmetic must not be run.
theorem burstsOf_compute (config : Config) (kind : Kind) :
    (Quotas.compute config).burstsOf kind =
      Quotas.floorPercent (config.totalOf kind * config.fractionOf kind) := by
  cases kind with
  | write =>
    rw [Quotas.burstsOf_write, totalOf, percentOf, fractionOf]
    unfold Quotas.compute
    with_reducible rfl
  | read =>
    rw [Quotas.burstsOf_read, totalOf, percentOf, fractionOf]
    unfold Quotas.compute
    with_reducible rfl

theorem singlesOf_compute (config : Config) (kind : Kind) :
    (Quotas.compute config).singlesOf kind =
      Quotas.floorPercent (config.totalOf kind) -
        Quotas.floorPercent (config.totalOf kind * config.fractionOf kind) := by
  cases kind with
  | write =>
    rw [Quotas.singlesOf_write, totalOf, percentOf, fractionOf]
    unfold Quotas.compute
    with_reducible rfl
  | read =>
    rw [Quotas.singlesOf_read, totalOf, percentOf, fractionOf]
    unfold Quotas.compute
    with_reducible rfl

section
variable {config : Config} (ratios : config.RatiosInRange)
include ratios

theorem fractionOf_inRange (kind : Kind) :
    (config.fractionOf kind).isFinite = true ∧ 0 ≤ (config.fractionOf kind).toRat ∧
      (config.fractionOf kind).toRat ≤ 1 := by
  cases kind with
  | write =>
      exact ⟨ratios.writeFraction_finite, ratios.writeFraction_nonneg, ratios.writeFraction_le⟩
  | read =>
      exact ⟨ratios.readFraction_finite, ratios.readFraction_nonneg, ratios.readFraction_le⟩

theorem percentOf_inRange (kind : Kind) :
    (config.percentOf kind).isFinite = true ∧ 0 ≤ (config.percentOf kind).toRat ∧
      (config.percentOf kind).toRat ≤ 100 := by
  cases kind with
  | write => exact ⟨ratios.writeRatio_finite, ratios.writeRatio_nonneg, ratios.writeRatio_le⟩
  | read => exact ⟨(rounds_readRatio ratios).finite, readRatio_nonneg ratios, readRatio_le ratios⟩

theorem moderate_totalOf (kind : Kind) : Quotas.Moderate (config.totalOf kind) := by
  obtain ⟨finite, nonneg, le⟩ := percentOf_inRange ratios kind
  exact (count_mul_percent config finite nonneg le).1

theorem toRat_totalOf (kind : Kind) :
    (config.totalOf kind).toRat =
      nearest (nearest config.instructionCount.toNat * (config.percentOf kind).toRat) := by
  obtain ⟨finite, nonneg, le⟩ := percentOf_inRange ratios kind
  exact (count_mul_percent config finite nonneg le).2

/-- Bursts and single accesses are all accesses of a kind, and neither are negative. -/
theorem split_kind (kind : Kind) :
    0 ≤ ((Quotas.compute config).burstsOf kind).toInt ∧
      0 ≤ ((Quotas.compute config).singlesOf kind).toInt ∧
      ((Quotas.compute config).burstsOf kind).toInt +
        ((Quotas.compute config).singlesOf kind).toInt =
          (Quotas.floorPercent (config.totalOf kind)).toInt := by
  obtain ⟨finite, nonneg, le_one⟩ := fractionOf_inRange ratios kind
  have total := moderate_totalOf ratios kind
  rw [burstsOf_compute, singlesOf_compute, Quotas.toInt_floorPercent total]
  exact Quotas.split total finite nonneg le_one

end

/-- Planning splits the writes and the reads, and no quota is negative. -/
theorem split_compute {config : Config} (checked : config.check = .ok ()) :
    let planned := Quotas.compute config
    (0 ≤ planned.sequentialWrite.toInt ∧ 0 ≤ planned.randomWrite.toInt ∧
      planned.sequentialWrite.toInt + planned.randomWrite.toInt =
        Quotas.percentFloor (nearest (nearest config.instructionCount.toNat *
          config.writeRatio.toRat))) ∧
    (0 ≤ planned.sequentialRead.toInt ∧ 0 ≤ planned.randomRead.toInt ∧
      planned.sequentialRead.toInt + planned.randomRead.toInt =
        Quotas.percentFloor (nearest (nearest config.instructionCount.toNat *
          config.readRatio.toRat))) := by
  have ratios := ratiosInRange checked
  have writes := split_kind ratios .write
  have reads := split_kind ratios .read
  rw [Quotas.toInt_floorPercent (moderate_totalOf ratios .write), toRat_totalOf ratios .write,
    percentOf, Quotas.burstsOf_write, Quotas.singlesOf_write] at writes
  rw [Quotas.toInt_floorPercent (moderate_totalOf ratios .read), toRat_totalOf ratios .read,
    percentOf, Quotas.burstsOf_read, Quotas.singlesOf_read] at reads
  exact ⟨writes, reads⟩

end Config
end AccessTrace
