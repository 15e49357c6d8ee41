/-
Module: AccessTrace.Proofs.Generator.Length
Purpose: How long a trace is, against the count of accesses that was asked for.
Main exports:
  size_le_of_plan, generate_length
-/
import Mathlib
import AccessTrace.Proofs.Generator.Report
import AccessTrace.Proofs.Quotas.Sum

namespace AccessTrace

variable {σ : Type} [AddressSource σ] {config : Config} {planned : Quotas}

/-- A trace is longer than its plan by less than a burst for each class of bursts. -/
theorem size_le_of_plan (hplan : config.plan = .ok planned) (source : σ) :
    ∃ trace rest, generate config source = (.ok trace, rest) ∧
      (trace.records.size : Int) ≤
        planned.sum + 2 * (config.sequentialBlockCount.toNat - 1) := by
  obtain ⟨trace, rest, run, -, -, reads, writes⟩ := generate_counts hplan source
  refine ⟨trace, rest, run, ?_⟩
  have all := Config.countKind_add_countKind trace.records.toList
  rw [Array.length_toList, reads, writes] at all
  obtain ⟨checked, -, planning⟩ := (Config.plan_eq_ok_iff config planned).1 hplan
  obtain ⟨⟨sequentialWrite, randomWrite, -⟩, ⟨sequentialRead, randomRead, -⟩⟩ :=
    Config.split_compute checked
  rw [← planning] at sequentialWrite randomWrite sequentialRead randomRead
  have count := Config.sequentialBlockCount_pos hplan
  have burstWrites : (config.roundedUp planned .sequentialWrite : Int) ≤
      max planned.sequentialWrite.toInt 0 + (config.sequentialBlockCount.toNat - 1) :=
    (config.roundedUp_bounds planned .sequentialWrite count).2
  have burstReads : (config.roundedUp planned .sequentialRead : Int) ≤
      max planned.sequentialRead.toInt 0 + (config.sequentialBlockCount.toNat - 1) :=
    (config.roundedUp_bounds planned .sequentialRead count).2
  have singleWrites : config.roundedUp planned .randomWrite = planned.randomWrite.toInt.toNat :=
    config.roundedUp_single planned rfl
  have singleReads : config.roundedUp planned .randomRead = planned.randomRead.toInt.toNat :=
    config.roundedUp_single planned rfl
  rw [Quotas.sum]
  omega

/-- A plan has nearly as many accesses as were asked for, whatever the rounding
of its percentages does, and a trace is not much longer than that. -/
theorem generate_length (checked : config.check = .ok ()) (source : σ) :
    (Quotas.compute config).sum ≤
        config.instructionCount.toNat + config.instructionCount.toNat / 2 ^ 50 ∧
      (config.instructionCount.toNat < 2 ^ 63 →
        (config.instructionCount.toNat : Int) - 2 - config.instructionCount.toNat / 2 ^ 50 ≤
          (Quotas.compute config).sum) ∧
      ∀ planned, config.plan = .ok planned →
        ∃ trace rest, generate config source = (.ok trace, rest) ∧
          trace.records.size ≤
            config.instructionCount.toNat + config.instructionCount.toNat / 2 ^ 50 +
              2 * (config.sequentialBlockCount.toNat - 1) ∧
          (config.instructionCount.toNat < 2 ^ 50 →
            trace.records.size ≤
              config.instructionCount.toNat + 3 * config.sequentialBlockCount.toNat) := by
  have most := Config.sum_compute_le checked
  refine ⟨most, Config.le_sum_compute checked, ?_⟩
  intro planned hplan
  obtain ⟨trace, rest, run, size⟩ := size_le_of_plan hplan source
  have count := Config.sequentialBlockCount_pos hplan
  rw [← ((Config.plan_eq_ok_iff config planned).1 hplan).2.2] at most
  refine ⟨trace, rest, run, ?_, ?_⟩
  · omega
  · intro small
    omega

theorem generate_length_aligned :
    alignedExample.check = .ok () ∧ alignedExample.plan = .ok ⟨6, 6, 6, 6⟩ ∧
      22 ≤ (Quotas.compute alignedExample).sum ∧ (Quotas.compute alignedExample).sum ≤ 24 ∧
      ∃ trace rest, generate alignedExample Scripted.lowest = (.ok trace, rest) ∧
        trace.records.size ≤ 32 := by
  have checked : alignedExample.check = .ok () := by decide +kernel
  have hplan : alignedExample.plan = .ok ⟨6, 6, 6, 6⟩ := by decide +kernel
  obtain ⟨most, least, length⟩ := generate_length checked Scripted.lowest
  obtain ⟨trace, rest, run, size, -⟩ := length _ hplan
  exact ⟨checked, hplan, least (by decide), most, trace, rest, run, size⟩

end AccessTrace
