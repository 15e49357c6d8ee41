/-
Module: AccessTrace.Proofs.Config.Plan
Purpose: What the checks before a run accept.
Main exports:
  Config.checkBounds_eq_ok_iff, Config.checkRatios_eq_ok_iff, Config.burstSpan?_all_iff,
  Config.checkAddressSpace_eq_ok_iff,
  Config.plan_eq_ok_iff, Config.sequentialBlockCount_pos
-/
import Mathlib
import AccessTrace.Config.Validation

namespace AccessTrace

/-- A check with a step after it gives a result exactly if the check accepts
and the step gives the result. -/
theorem check_bind_eq_ok_iff {ε α : Type} (check : Except ε Unit) (next : Unit → Except ε α)
    (result : α) : (check >>= next) = .ok result ↔ check = .ok () ∧ next () = .ok result := by
  cases check <;> simp [bind, Except.bind]

namespace Config

theorem checkPositive_eq_ok_iff (field : Field) (value : UInt64) :
    checkPositive field value = .ok () ↔ 0 < value.toNat := by
  have zero : value = 0 ↔ value.toNat = 0 := by
    rw [← UInt64.toNat_inj, UInt64.toNat_zero]
  unfold checkPositive
  split
  · simp_all
  · simp_all [Nat.pos_iff_ne_zero]

theorem checkRange_eq_ok_iff (field : Field) (value least greatest : Binary64) :
    checkRange field value least greatest = .ok () ↔
      least.le value = true ∧ value.le greatest = true := by
  unfold checkRange
  split <;> simp_all

theorem checkBounds_eq_ok_iff (config : Config) :
    config.checkBounds = .ok () ↔
      0 < config.maxAddress.toNat ∧ 0 < config.instructionCount.toNat ∧
        0 < config.blockSize.toNat ∧ 0 < config.sequentialBlockCount.toNat := by
  simp [checkBounds, check_bind_eq_ok_iff, checkPositive_eq_ok_iff]

theorem checkRatios_eq_ok_iff (config : Config) :
    config.checkRatios = .ok () ↔
      ((Binary64.ofNat 0).le config.writeRatio = true ∧
          config.writeRatio.le Binary64.hundred = true) ∧
        ((Binary64.ofNat 0).le config.writeSequentialFraction = true ∧
          config.writeSequentialFraction.le (.ofNat 1) = true) ∧
        ((Binary64.ofNat 0).le config.readSequentialFraction = true ∧
          config.readSequentialFraction.le (.ofNat 1) = true) := by
  simp [checkRatios, check_bind_eq_ok_iff, checkRange_eq_ok_iff]

theorem check_eq_ok_iff (config : Config) :
    config.check = .ok () ↔ config.checkBounds = .ok () ∧ config.checkRatios = .ok () := by
  simp [check, check_bind_eq_ok_iff]

/-- A burst is longer than the address space, whether or not 64 bits can say so. -/
theorem burstSpan?_all_iff (config : Config) :
    config.burstSpan?.all (config.maxAddress < ·) = true ↔
      config.maxAddress.toNat < config.exactBurstSpan := by
  have below := config.maxAddress.toNat_lt
  unfold burstSpan?
  split
  · rename_i fits
    simp [UInt64.lt_iff_toNat_lt, UInt64.toNat_ofNat_of_lt' fits]
  · rename_i tooLarge
    have : UInt64.size = 2 ^ 64 := rfl
    simp only [Option.all_none, true_iff]
    omega

/-- The address space has room for a block, and for a burst where one is due. -/
theorem checkAddressSpace_eq_ok_iff (config : Config) (quotas : Quotas) :
    config.checkAddressSpace quotas = .ok () ↔
      config.blockSize.toNat ≤ config.maxAddress.toNat ∧
        (quotas.hasSequentialWork = true →
          config.blockSize.toNat * config.sequentialBlockCount.toNat ≤
            config.maxAddress.toNat) := by
  unfold checkAddressSpace
  split
  · rename_i small
    rw [UInt64.lt_iff_toNat_lt] at small
    simp only [reduceCtorEq, false_iff]
    omega
  · rename_i room
    rw [UInt64.lt_iff_toNat_lt, not_lt] at room
    split
    · rename_i refused
      rw [Bool.and_eq_true, burstSpan?_all_iff, exactBurstSpan] at refused
      simp only [reduceCtorEq, false_iff, not_and, refused.1, forall_const]
      omega
    · rename_i accepted
      rw [Bool.and_eq_true, burstSpan?_all_iff, exactBurstSpan, not_and, not_lt] at accepted
      exact ⟨fun _ => ⟨room, accepted⟩, fun _ => rfl⟩

/-- A plan is the quotas of a configuration that passes every check. -/
theorem plan_eq_ok_iff (config : Config) (planned : Quotas) :
    config.plan = .ok planned ↔
      config.check = .ok () ∧ config.checkAddressSpace planned = .ok () ∧
        planned = Quotas.compute config := by
  simp only [plan, check_bind_eq_ok_iff, pure, Except.pure, Except.ok.injEq]
  constructor
  · rintro ⟨checked, fits, rfl⟩
    exact ⟨checked, fits, rfl⟩
  · rintro ⟨checked, fits, rfl⟩
    exact ⟨checked, fits, rfl⟩

section
variable {config : Config} {planned : Quotas} (hplan : config.plan = .ok planned)
include hplan

theorem blockSize_pos : 0 < config.blockSize.toNat := by
  obtain ⟨checked, -, -⟩ := (plan_eq_ok_iff config planned).1 hplan
  obtain ⟨bounds, -⟩ := (check_eq_ok_iff config).1 checked
  exact ((checkBounds_eq_ok_iff config).1 bounds).2.2.1

theorem sequentialBlockCount_pos : 0 < config.sequentialBlockCount.toNat := by
  obtain ⟨checked, -, -⟩ := (plan_eq_ok_iff config planned).1 hplan
  obtain ⟨bounds, -⟩ := (check_eq_ok_iff config).1 checked
  exact ((checkBounds_eq_ok_iff config).1 bounds).2.2.2

end

end Config
end AccessTrace
