/-
Module: AccessTrace.Proofs.Source.Honest
Purpose: Sources whose answers stay inside the ranges that they are asked for.
Main exports:
  AddressSource.Honest, AddressSource.honest_draw, AddressSource.honest_of_draw,
  Scripted.count_cases, Scripted.toNat_fold, Scripted.honest
-/
import Mathlib
import AccessTrace.Source.Scripted

namespace AccessTrace
namespace AddressSource

variable {σ : Type} [AddressSource σ]

/-- Whatever ranges with something in them are asked for, one after the other,
every answer is in its range. -/
def Honest (source : σ) : Prop :=
  ∀ ranges : List (UInt64 × UInt64), (∀ range ∈ ranges, range.1 ≤ range.2) →
    List.Forall₂ (fun range answer => range.1 ≤ answer ∧ answer ≤ range.2) ranges
      (drawAll ranges source).1

/-- An honest source gives an answer in range and is still honest after it. -/
theorem honest_draw {source : σ} (honest : Honest source) {low high : UInt64}
    (range : low ≤ high) :
    (low ≤ (draw low high source).1 ∧ (draw low high source).1 ≤ high) ∧
      Honest (draw low high source).2 := by
  constructor
  · have answers := honest [(low, high)] (List.forall_mem_singleton.2 range)
    cases answers with
    | cons answer _ => exact answer
  · intro ranges valid
    have answers := honest ((low, high) :: ranges) (List.forall_mem_cons.2 ⟨range, valid⟩)
    cases answers with
    | cons _ more => exact more

/-- A source is honest if it is so one draw at a time, in every state. -/
theorem honest_of_draw
    (inRange : ∀ (low high : UInt64) (source : σ), low ≤ high →
      low ≤ (draw low high source).1 ∧ (draw low high source).1 ≤ high)
    (source : σ) : Honest source := by
  intro ranges
  induction ranges generalizing source with
  | nil =>
      intro _
      exact .nil
  | cons range ranges ih =>
      intro valid
      obtain ⟨first, rest⟩ := List.forall_mem_cons.1 valid
      exact .cons (inRange _ _ source first) (ih _ rest)

end AddressSource

namespace Scripted

/-- The count of addresses in a range is what it should be, or no word can hold it. -/
theorem count_cases {low high : UInt64} (range : low ≤ high) :
    (high - low + 1 = 0 ∧ high.toNat - low.toNat = 2 ^ 64 - 1) ∨
      (high - low + 1 ≠ 0 ∧ (high - low + 1).toNat = high.toNat - low.toNat + 1) := by
  have high_lt := high.toNat_lt
  have count : (high - low + 1).toNat = (high.toNat - low.toNat + 1) % 2 ^ 64 := by
    rw [UInt64.toNat_add, UInt64.toNat_sub_of_le _ _ range, UInt64.toNat_one]
  rw [Ne, ← UInt64.toNat_inj, count, UInt64.toNat_zero]
  omega

/-- A value is folded by its remainder, without any bound on the count of addresses. -/
theorem toNat_fold {low high : UInt64} (range : low ≤ high) (value : UInt64) :
    (fold low high value).toNat =
      low.toNat + value.toNat % (high.toNat - low.toNat + 1) := by
  have value_lt := value.toNat_lt
  have high_lt := high.toNat_lt
  rcases count_cases range with ⟨all, width⟩ | ⟨nonzero, count⟩
  · simp only [fold, all, if_true]
    rw [Nat.mod_eq_of_lt (by omega)]
    omega
  · have remainder := Nat.mod_lt value.toNat (by omega : high.toNat - low.toNat + 1 > 0)
    rw [UInt64.le_iff_toNat_le] at range
    simp only [fold, if_neg nonzero]
    rw [UInt64.toNat_add, UInt64.toNat_mod, count, Nat.mod_eq_of_lt (by omega)]

/-- A folded value is in the range that it is folded into. -/
theorem fold_inRange {low high : UInt64} (range : low ≤ high) (value : UInt64) :
    low ≤ fold low high value ∧ fold low high value ≤ high := by
  have remainder := Nat.mod_lt value.toNat (by omega : high.toNat - low.toNat + 1 > 0)
  simp only [UInt64.le_iff_toNat_le, toNat_fold range] at range ⊢
  omega

/-- Every script is honest. -/
theorem honest (source : Scripted) : AddressSource.Honest source := by
  apply AddressSource.honest_of_draw
  intro low high source range
  change low ≤ (draw low high source).1 ∧ (draw low high source).1 ≤ high
  unfold draw
  split
  · exact ⟨range, UInt64.le_refl _⟩
  · split
    · exact ⟨UInt64.le_refl _, range⟩
    · split
      · exact ⟨UInt64.le_refl _, range⟩
      · exact fold_inRange range _

end Scripted
end AccessTrace
