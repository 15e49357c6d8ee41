/-
Module: AccessTrace.Proofs.Generator.Ledger
Purpose: A run as a machine that gives one turn at a time, and what its turns add up to.
Main exports:
  Ledger, Ledger.turn, Ledger.finish, Ledger.invariant_finish, Ledger.Balanced,
  Ledger.count_finish, Config.count_mul_turnLength_lt
-/
import Mathlib
import AccessTrace.Proofs.Generator.Records

namespace AccessTrace

/-!
A schedule grows by whole passes.  Here it grows turn by turn: a ledger holds
the turns so far and the quotas that they have left.  A property that one turn
keeps is a property of the whole run, and the one that matters is the balance
of a class: what is left is the plan without a full step for every turn, and
no turn was given while nothing was left.
-/

namespace AccessClass

/-- What a turn of a class takes off its quota. -/
def step (burst : Int64) (accessClass : AccessClass) : Int64 :=
  if accessClass.isSequential then burst else 1

theorem step_pos {burst : Int64} (hb : 0 < burst) (accessClass : AccessClass) :
    0 < accessClass.step burst := by
  have one : (0 : Int64) < 1 := by decide
  cases accessClass with
  | sequentialWrite | sequentialRead => exact hb
  | randomRead | randomWrite => exact one

end AccessClass

namespace Quotas

/-- The quotas after a turn of a class. -/
def take (burst : Int64) (quotas : Quotas) : AccessClass → Quotas
  | .sequentialWrite => { quotas with sequentialWrite := quotas.sequentialWrite - burst }
  | .randomRead => { quotas with randomRead := quotas.randomRead - 1 }
  | .sequentialRead => { quotas with sequentialRead := quotas.sequentialRead - burst }
  | .randomWrite => { quotas with randomWrite := quotas.randomWrite - 1 }

theorem quota_take_self (burst : Int64) (quotas : Quotas) (accessClass : AccessClass) :
    accessClass.quota (quotas.take burst accessClass) =
      accessClass.quota quotas - accessClass.step burst := by
  cases accessClass <;> rfl

theorem quota_take_other (burst : Int64) (quotas : Quotas) {accessClass other : AccessClass}
    (distinct : other ≠ accessClass) :
    other.quota (quotas.take burst accessClass) = other.quota quotas := by
  cases accessClass <;> cases other <;> first | rfl | exact absurd rfl distinct

theorem anyPositive_eq_true_iff (quotas : Quotas) :
    quotas.anyPositive = true ↔ ∃ c : AccessClass, 0 < c.quota quotas := by
  simp only [anyPositive, Bool.or_eq_true, decide_eq_true_eq]
  constructor
  · rintro (((h | h) | h) | h)
    · exact ⟨.sequentialWrite, h⟩
    · exact ⟨.randomRead, h⟩
    · exact ⟨.sequentialRead, h⟩
    · exact ⟨.randomWrite, h⟩
  · rintro ⟨c, h⟩
    cases c with
    | sequentialWrite => exact .inl (.inl (.inl h))
    | randomRead => exact .inl (.inl (.inr h))
    | sequentialRead => exact .inl (.inr h)
    | randomWrite => exact .inr h

end Quotas

/-- The turns that a run has had, and the quotas that are left. -/
structure Ledger where
  turns : Array AccessClass
  left : Quotas

namespace Ledger

/-- The ledger before the first turn. -/
def opening (planned : Quotas) : Ledger where
  turns := #[]
  left := planned

/-- The ledger after a turn of a class. -/
def record (burst : Int64) (ledger : Ledger) (accessClass : AccessClass) : Ledger where
  turns := ledger.turns.push accessClass
  left := ledger.left.take burst accessClass

/-- A class that has work left gets a turn. -/
def turn (burst : Int64) (ledger : Ledger) (accessClass : AccessClass) : Ledger :=
  if 0 < accessClass.quota ledger.left then ledger.record burst accessClass else ledger

/-- Every class in its order. -/
def pass (burst : Int64) (ledger : Ledger) : Ledger :=
  AccessClass.turns.foldl (turn burst) ledger

/-- The turns of a pass are those of the quotas that it starts from: no turn
touches the quota of a class whose turn is still to come. -/
theorem pass_eq (burst : Int64) (ledger : Ledger) :
    ledger.pass burst =
      { turns := ledger.turns ++ ledger.left.pass, left := ledger.left.afterPass burst } := by
  obtain ⟨turns, sw, sr, rw, rr⟩ := ledger
  -- One case for each set of classes with work left.
  by_cases hsw : 0 < sw <;> by_cases hrr : 0 < rr <;> by_cases hsr : 0 < sr <;>
    by_cases hrw : 0 < rw <;>
      simp [pass, AccessClass.turns, turn, record, AccessClass.quota, Quotas.take, Quotas.pass,
        Quotas.afterPass, Quotas.afterTurn, hsw, hrr, hsr, hrw]

/-- The ledger when no class has work left. -/
def finish (burst : Int64) (ledger : Ledger) : Ledger :=
  if _h : ledger.left.anyPositive = true ∧ 0 < burst then
    finish burst (ledger.pass burst)
  else ledger
termination_by ledger.left.workLeft
decreasing_by
  rw [pass_eq]
  exact Quotas.workLeft_afterPass_lt _h.2 _h.1

theorem turns_finish (burst : Int64) (ledger : Ledger) :
    (ledger.finish burst).turns = Schedule.extend burst ledger.turns ledger.left := by
  induction ledger using finish.induct burst with
  | case1 ledger more ih =>
      rw [finish, dif_pos more, ih, pass_eq, Schedule.extend_of_work more.2 _ more.1]
  | case2 ledger done =>
      rw [finish, dif_neg done, Schedule.extend, dif_neg done]

section
variable {burst : Int64} {P : Ledger → Prop}
  (kept : ∀ ledger c, P ledger → 0 < c.quota ledger.left → P (ledger.record burst c))
include kept

theorem invariant_turns (classes : List AccessClass) {ledger : Ledger} (start : P ledger) :
    P (classes.foldl (turn burst) ledger) := by
  induction classes generalizing ledger with
  | nil => exact start
  | cons c classes ih =>
      refine ih ?_
      unfold turn
      split
      · exact kept ledger c start ‹_›
      · exact start

/-- What every turn keeps holds at the end, and then no class has work left. -/
theorem invariant_finish (hb : 0 < burst) {ledger : Ledger} (start : P ledger) :
    P (ledger.finish burst) ∧ (ledger.finish burst).left.anyPositive = false := by
  induction ledger using finish.induct burst with
  | case1 ledger more ih =>
      rw [finish, dif_pos more]
      exact ih (invariant_turns kept AccessClass.turns start)
  | case2 ledger done =>
      rw [finish, dif_neg done]
      exact ⟨start, by simpa [hb] using done⟩

end

/-! ### The balance of a class -/

/-- What is left of each quota is the plan without a step for every turn, and
the last turn of each class was due. -/
structure Balanced (burst : Int64) (planned : Quotas) (ledger : Ledger) : Prop where
  left : ∀ c : AccessClass, (c.quota ledger.left).toInt =
    (c.quota planned).toInt - ledger.turns.count c * (c.step burst).toInt
  due : ∀ c : AccessClass, 0 < ledger.turns.count c →
    ((ledger.turns.count c : Int) - 1) * (c.step burst).toInt < (c.quota planned).toInt

section
variable {burst : Int64} {planned : Quotas}

theorem balanced_opening : Balanced burst planned (opening planned) := by
  constructor
  · intro c
    simp [opening]
  · intro c turned
    simp [opening] at turned

theorem balanced_record (hb : 0 < burst) {ledger : Ledger} {c : AccessClass}
    (balanced : Balanced burst planned ledger) (work : 0 < c.quota ledger.left) :
    Balanced burst planned (ledger.record burst c) := by
  have before := balanced.left c
  have left_pos := Quotas.toInt_pos.2 work
  constructor
  · intro other
    by_cases same : other = c
    · subst same
      rw [record, Quotas.quota_take_self, Quotas.toInt_sub_of_pos work (other.step_pos hb), before,
        Array.count_push_self]
      push_cast
      ring
    · rw [record, Quotas.quota_take_other _ _ same, balanced.left other,
        Array.count_push_of_ne (Ne.symm same)]
  · intro other turned
    by_cases same : other = c
    · subst same
      rw [record, Array.count_push_self]
      push_cast
      rw [add_sub_cancel_right]
      omega
    · rw [record, Array.count_push_of_ne (Ne.symm same)] at turned ⊢
      exact balanced.due other turned

/-- A class never has more left than it was given. -/
theorem Balanced.left_le (hb : 0 < burst) {ledger : Ledger}
    (balanced : Balanced burst planned ledger) (c : AccessClass) :
    (c.quota ledger.left).toInt ≤ (c.quota planned).toInt := by
  have step := Quotas.toInt_pos.2 (c.step_pos hb)
  have taken : 0 ≤ (ledger.turns.count c : Int) * (c.step burst).toInt := by positivity
  rw [balanced.left c]
  omega

/-- The turns that use up a quota, the last of which was due, are its steps
rounded up. -/
theorem ceilDiv_of_due {quota : Int} {size count : Nat} (positive : 0 < size)
    (used : quota ≤ count * size) (due : 0 < count → ((count : Int) - 1) * size < quota) :
    quota.toNat ⌈/⌉ size = count := by
  apply le_antisymm
  · rw [ceilDiv_le_iff_le_mul positive, mul_comm, Int.toNat_le]
    exact_mod_cast used
  · cases count with
    | zero => exact Nat.zero_le _
    | succ count =>
        have before := due (Nat.succ_pos count)
        push_cast at before
        rw [add_sub_cancel_right] at before
        rw [Nat.succ_le_iff, ← not_le, ceilDiv_le_iff_le_mul positive, mul_comm, not_le,
          Int.lt_toNat]
        exact_mod_cast before

/-- At the end a class has had as many turns as its quota needs. -/
theorem balanced_finish (hb : 0 < burst) (planned : Quotas) :
    Balanced burst planned ((opening planned).finish burst) ∧
      ∀ c : AccessClass, ((opening planned).finish burst).turns.count c =
        (c.quota planned).toInt.toNat ⌈/⌉ (c.step burst).toInt.toNat := by
  obtain ⟨balanced, done⟩ := invariant_finish (P := Balanced burst planned)
    (fun _ _ kept work => balanced_record hb kept work) hb balanced_opening
  refine ⟨balanced, fun c => ?_⟩
  have used : (c.quota ((opening planned).finish burst).left).toInt ≤ 0 := by
    by_contra more
    have work : 0 < c.quota ((opening planned).finish burst).left := Quotas.toInt_pos.1 (by omega)
    rw [(Quotas.anyPositive_eq_true_iff _).2 ⟨c, work⟩] at done
    cases done
  have step := Quotas.toInt_pos.2 (c.step_pos hb)
  have size := Int.toNat_of_nonneg step.le
  have left := balanced.left c
  refine (ceilDiv_of_due (by omega) ?_ ?_).symm
  · rw [size]
    omega
  · rw [size]
    exact balanced.due c

end
end Ledger
end AccessTrace
