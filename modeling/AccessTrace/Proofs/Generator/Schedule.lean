/-
Module: AccessTrace.Proofs.Generator.Schedule
Purpose: The turns of a run in closed form: how many passes there are, and who has a turn in each.
Main exports:
  Config.burstWork, Quotas.turnsOfPass, Quotas.passCount, Quotas.anyPositive_afterPasses_iff,
  Schedule.toList_ofQuotas
-/
import Mathlib
import AccessTrace.Generator

namespace AccessTrace

/-!
A class has a turn in pass `j`, counted from zero, exactly if `j` turns have
not used up its quota.  What a quota is after `j` passes follows from `j`
alone as long as it is positive; once it is not, it stays as it is, so its
exact value no longer matters.
-/

namespace Quotas

/-- The classes that have a turn in a pass, when a burst takes off `burst`. -/
def turnsOfPass (burst : Nat) (planned : Quotas) (pass : Nat) : List AccessClass :=
  (if (pass * burst : Int) < planned.sequentialWrite.toInt then [.sequentialWrite] else []) ++
  (if (pass : Int) < planned.randomRead.toInt then [.randomRead] else []) ++
  (if (pass * burst : Int) < planned.sequentialRead.toInt then [.sequentialRead] else []) ++
  (if (pass : Int) < planned.randomWrite.toInt then [.randomWrite] else [])

/-- How many passes a plan takes: as many as the class that needs the most. -/
def passCount (burst : Nat) (planned : Quotas) : Nat :=
  max (max (planned.sequentialWrite.toInt.toNat ⌈/⌉ burst) planned.randomRead.toInt.toNat)
    (max (planned.sequentialRead.toInt.toNat ⌈/⌉ burst) planned.randomWrite.toInt.toNat)

/-- All turns of a plan, pass by pass. -/
def scheduledTurns (burst : Nat) (planned : Quotas) : List AccessClass :=
  (List.range (planned.passCount burst)).flatMap (planned.turnsOfPass burst)

/-! ### One quota through many passes -/

theorem toInt_pos {quota : Int64} : 0 < quota.toInt ↔ 0 < quota := by
  simp [Int64.lt_iff_toInt_lt]

theorem toInt_afterTurn_of_pos {step : Int64} (quota : Int64) (hs : 0 < step)
    (hq : 0 < quota.toInt) :
    (afterTurn step quota).toInt = quota.toInt - step.toInt := by
  rw [afterTurn, if_pos (toInt_pos.1 hq), toInt_sub_of_pos (toInt_pos.1 hq) hs]

theorem afterTurn_of_nonpos {step quota : Int64} (hq : quota.toInt ≤ 0) :
    afterTurn step quota = quota := by
  rw [afterTurn, if_neg]
  rw [← toInt_pos]
  omega

/-- A quota after some passes: what the turns have left of it, or nothing. -/
theorem toInt_afterTurns {step : Int64} (hs : 0 < step) (quota : Int64) (passes : Nat) :
    (passes * step.toInt < quota.toInt →
      ((afterTurn step)^[passes] quota).toInt = quota.toInt - passes * step.toInt) ∧
    (quota.toInt ≤ passes * step.toInt → ((afterTurn step)^[passes] quota).toInt ≤ 0) := by
  have step_pos : 0 < step.toInt := toInt_pos.2 hs
  induction passes with
  | zero =>
      simp
  | succ passes ih =>
      rw [Function.iterate_succ_apply']
      have expand : ((passes + 1 : Nat) : Int) * step.toInt = passes * step.toInt + step.toInt := by
        push_cast
        ring
      rw [expand]
      rcases lt_or_ge (passes * step.toInt) quota.toInt with working | finished
      · have before := ih.1 working
        have after := toInt_afterTurn_of_pos ((afterTurn step)^[passes] quota) hs (by omega)
        constructor <;> intro _ <;> omega
      · have before := ih.2 finished
        rw [afterTurn_of_nonpos before]
        exact ⟨fun more => by omega, fun _ => before⟩

theorem afterTurns_pos_iff {step : Int64} (hs : 0 < step) (quota : Int64) (passes : Nat) :
    0 < (afterTurn step)^[passes] quota ↔ passes * step.toInt < quota.toInt := by
  obtain ⟨working, finished⟩ := toInt_afterTurns hs quota passes
  rw [← toInt_pos]
  constructor
  · intro positive
    by_contra used
    have := finished (by omega)
    omega
  · intro left
    have := working left
    omega

/-! ### All quotas through many passes -/

theorem afterPasses_eq (burst : Int64) (planned : Quotas) (passes : Nat) :
    (afterPass burst)^[passes] planned =
      { sequentialWrite := (afterTurn burst)^[passes] planned.sequentialWrite
        sequentialRead := (afterTurn burst)^[passes] planned.sequentialRead
        randomWrite := (afterTurn 1)^[passes] planned.randomWrite
        randomRead := (afterTurn 1)^[passes] planned.randomRead } := by
  induction passes with
  | zero => rfl
  | succ passes ih => simp only [Function.iterate_succ_apply', ih, afterPass]

section
variable {burst : Int64} {work : Nat} (hwork : burst.toInt = work) (hpos : 0 < work)
include hwork hpos

/-- The turns of a pass, read off the plan. -/
theorem pass_afterPasses (planned : Quotas) (passes : Nat) :
    ((afterPass burst)^[passes] planned).pass = planned.turnsOfPass work passes := by
  have hb : 0 < burst := toInt_pos.1 (by omega)
  have h1 : (0 : Int64) < 1 := by decide
  have one : (1 : Int64).toInt = 1 := by decide
  rw [afterPasses_eq]
  simp only [pass, AccessClass.turns, List.filter_cons, List.filter_nil, AccessClass.quota,
    decide_eq_true_eq, afterTurns_pos_iff hb, afterTurns_pos_iff h1, hwork, one, mul_one,
    turnsOfPass]
  split_ifs <;> rfl

/-- Work is left after some passes exactly if there are more to come. -/
theorem anyPositive_afterPasses_iff (planned : Quotas) (passes : Nat) :
    ((afterPass burst)^[passes] planned).anyPositive = true ↔ passes < planned.passCount work := by
  have hb : 0 < burst := toInt_pos.1 (by omega)
  have h1 : (0 : Int64) < 1 := by decide
  have one : (1 : Int64).toInt = 1 := by decide
  have ceil (quota : Int64) :
      passes < quota.toInt.toNat ⌈/⌉ work ↔ passes * work < quota.toInt.toNat := by
    rw [← not_le, ceilDiv_le_iff_le_mul hpos, not_le, mul_comm]
  have natural (quota : Int64) (n : Nat) : n < quota.toInt.toNat ↔ (n : Int) < quota.toInt := by
    omega
  rw [afterPasses_eq]
  simp only [anyPositive, Bool.or_eq_true, decide_eq_true_eq, afterTurns_pos_iff hb,
    afterTurns_pos_iff h1, hwork, one, mul_one, passCount, lt_max_iff, ceil, natural]
  push_cast
  rw [or_assoc]

end
end Quotas

namespace Schedule

open Quotas

theorem extend_of_work {burst : Int64} (hb : 0 < burst) (turns : Array AccessClass) {left : Quotas}
    (work : left.anyPositive = true) :
    extend burst turns left = extend burst (turns ++ left.pass) (left.afterPass burst) := by
  rw [extend, dif_pos ⟨work, hb⟩]

theorem extend_of_no_work {burst : Int64} (turns : Array AccessClass) {left : Quotas}
    (noWork : left.anyPositive = false) : extend burst turns left = turns := by
  rw [extend, dif_neg (by simp [noWork])]

/-- The passes that follow some turns, where `passes` is their number. -/
theorem toList_extend {burst : Int64} (hb : 0 < burst) (passes : Nat) :
    ∀ (turns : Array AccessClass) (left : Quotas),
      (∀ n, ((afterPass burst)^[n] left).anyPositive = true ↔ n < passes) →
        (extend burst turns left).toList =
          turns.toList ++
            (List.range passes).flatMap fun n => ((afterPass burst)^[n] left).pass := by
  induction passes with
  | zero =>
      intro turns left more
      have noWork : left.anyPositive = false := by simpa using more 0
      simp [extend_of_no_work turns noWork]
  | succ passes ih =>
      intro turns left more
      have work : left.anyPositive = true := (more 0).2 (Nat.succ_pos _)
      have rest := ih (turns ++ left.pass) (left.afterPass burst) fun n => by
        rw [← Function.iterate_succ_apply, more]
        omega
      rw [extend_of_work hb turns work, rest, List.range_succ_eq_map]
      simp [List.flatMap_map]

/-- A schedule is the turns of its passes, one pass after the other. -/
theorem toList_ofQuotas {burst : Int64} {work : Nat} (hwork : burst.toInt = work) (hpos : 0 < work)
    (planned : Quotas) : (ofQuotas burst planned).toList = planned.scheduledTurns work := by
  have hb : 0 < burst := toInt_pos.1 (by omega)
  rw [ofQuotas, toList_extend hb (planned.passCount work) #[] planned
    (anyPositive_afterPasses_iff hwork hpos planned)]
  simp only [pass_afterPasses hwork hpos, scheduledTurns, List.nil_append]

end Schedule

namespace Config

/-- What a burst takes off its quota, as a number. -/
def burstWork (config : Config) : Nat :=
  min config.sequentialBlockCount.toNat (2 ^ 63 - 1)

theorem toInt_burstStep (config : Config) : config.burstStep.toInt = config.burstWork := by
  have := Nat.min_le_right config.sequentialBlockCount.toNat 0x7FFFFFFFFFFFFFFF
  rw [burstStep, Int64.toInt_ofNat_of_lt (by omega), burstWork]
  norm_num

end Config
end AccessTrace
