/-
Module: AccessTrace.Proofs.Summary.ByteSize
Purpose: The unit of a size and the number in front of it, which is rounded after the unit is chosen.
Main exports:
  Summary.MiddleUnit, Summary.byteSize_cases, Summary.exists_inUnits, Summary.ShownIn,
  Summary.byteSize_in_unit, Summary.byteSize_past_unit
-/
import Mathlib
import AccessTrace.Proofs.Binary64.Fixed
import AccessTrace.Summary

namespace AccessTrace.Summary

open Binary64 (twoPlaces)

/-!
The unit of a size is the largest that it reaches, and only then is the size
divided and rounded to hundredths.  Sizes below a terabyte are exact as numbers,
and so are their quotients by powers of two, so that the hundredths are rounded
from the exact quotient.  A size that lacks at most half a hundredth of its unit
to the next one is therefore rounded up to 1024 of its own.
-/

/-! ### The unit -/

/-- The units that have another one above them. -/
inductive MiddleUnit where
  | kilo
  | mega
  | giga
deriving DecidableEq

namespace MiddleUnit

/-- How many bytes a unit has. -/
def size : MiddleUnit → Nat
  | .kilo => kilobyte
  | .mega => megabyte
  | .giga => gigabyte

/-- What is written behind the number. -/
def symbol : MiddleUnit → String
  | .kilo => " KB"
  | .mega => " MB"
  | .giga => " GB"

/-- A size reaches a unit, but not the next one. -/
def Reached (unit : MiddleUnit) (bytes : UInt64) : Prop :=
  unit.size ≤ bytes.toNat ∧ bytes.toNat < 1024 * unit.size

theorem exists_size_eq (unit : MiddleUnit) : ∃ exponent ≤ 30, unit.size = 2 ^ exponent := by
  cases unit with
  | kilo => exact ⟨10, by decide, by decide⟩
  | mega => exact ⟨20, by decide, by decide⟩
  | giga => exact ⟨30, by decide, by decide⟩

theorem Reached.bounds {unit : MiddleUnit} {bytes : UInt64} (reached : unit.Reached bytes) :
    kilobyte ≤ bytes.toNat ∧ bytes.toNat < terabyte := by
  obtain ⟨low, high⟩ := reached
  cases unit <;> simp only [size, terabyte, gigabyte, megabyte, kilobyte] at low high ⊢ <;> omega

theorem Reached.unique {unit other : MiddleUnit} {bytes : UInt64} (reached : unit.Reached bytes)
    (also : other.Reached bytes) : unit = other := by
  cases unit <;> cases other <;> first
    | rfl
    | simp only [Reached, size, gigabyte, megabyte, kilobyte] at reached also
      omega

end MiddleUnit

/-- The text of a size, by the unit that it reaches. -/
theorem byteSize_cases (bytes : UInt64) :
    (∃ unit : MiddleUnit, unit.Reached bytes ∧
        byteSize bytes = inUnits bytes unit.size ++ unit.symbol) ∨
      (terabyte ≤ bytes.toNat ∧ byteSize bytes = inUnits bytes terabyte ++ " TB") ∨
      (bytes.toNat < kilobyte ∧ byteSize bytes = number bytes.toNat ++ " B") := by
  unfold byteSize
  dsimp only
  split_ifs with tera giga mega kilo
  · exact .inr (.inl ⟨tera, rfl⟩)
  · exact .inl ⟨.giga, ⟨giga, not_le.1 tera⟩, rfl⟩
  · exact .inl ⟨.mega, ⟨mega, not_le.1 giga⟩, rfl⟩
  · exact .inl ⟨.kilo, ⟨kilo, not_le.1 mega⟩, rfl⟩
  · exact .inr (.inr ⟨not_le.1 kilo, rfl⟩)

/-- The two last characters of a text, from its end. -/
def lastTwo (text : String) : List Char :=
  text.toList.reverse.take 2

theorem lastTwo_append (number symbol : String) (enough : 2 ≤ symbol.toList.length) :
    lastTwo (number ++ symbol) = lastTwo symbol := by
  rw [lastTwo, String.toList_append, List.reverse_append,
    List.take_append_of_le_length (by rwa [List.length_reverse]), lastTwo]

/-- A unit is known from the end of a text. -/
theorem MiddleUnit.lastTwo_symbol (unit : MiddleUnit) (number : String) :
    lastTwo (number ++ unit.symbol) = lastTwo unit.symbol := by
  apply lastTwo_append
  cases unit <;> decide

theorem byteSize_of_reached {unit : MiddleUnit} {bytes : UInt64} (reached : unit.Reached bytes) :
    byteSize bytes = inUnits bytes unit.size ++ unit.symbol := by
  obtain ⟨low, high⟩ := reached.bounds
  rcases byteSize_cases bytes with ⟨other, also, result⟩ | ⟨above, -⟩ | ⟨below, -⟩
  · rwa [reached.unique also]
  · exact absurd high (not_lt.2 above)
  · exact absurd low (not_le.2 below)

/-- A text that ends in a unit is that of a size which reaches the unit. -/
theorem reached_of_byteSize {unit : MiddleUnit} {bytes : UInt64} {shown : String}
    (text : byteSize bytes = shown ++ unit.symbol) : unit.Reached bytes := by
  have ending := congrArg lastTwo text
  rw [unit.lastTwo_symbol] at ending
  rcases byteSize_cases bytes with ⟨other, reached, result⟩ | ⟨-, result⟩ | ⟨-, result⟩
  · rw [result, other.lastTwo_symbol] at ending
    have same : other = unit := by
      revert ending
      cases unit <;> cases other <;> decide
    rwa [← same]
  · rw [result, lastTwo_append _ _ (by decide)] at ending
    exact absurd ending (by cases unit <;> decide)
  · rw [result, lastTwo_append _ _ (by decide)] at ending
    exact absurd ending (by cases unit <;> decide)

/-! ### The number -/

/-- Sizes that do not reach a terabyte are divided exactly. -/
theorem toRat_quotient {unit : MiddleUnit} {bytes : UInt64} (reached : unit.Reached bytes) :
    (Binary64.ofNat bytes.toNat / Binary64.ofNat unit.size).isFinite = true ∧
      (Binary64.ofNat bytes.toNat / Binary64.ofNat unit.size).toRat =
        bytes.toNat / unit.size := by
  obtain ⟨-, below⟩ := reached.bounds
  obtain ⟨exponent, few, size⟩ := unit.exists_size_eq
  have small : bytes.toNat < 2 ^ 53 := below.trans (by decide)
  have small_size : unit.size < 2 ^ 53 := by
    rw [size]
    exact Nat.pow_lt_pow_right (by decide) (by omega)
  have one_le : (1 : ℚ) ≤ unit.size := by
    rw [size]
    exact_mod_cast Nat.one_le_two_pow
  have dividend := Binary64.toRat_ofNat small
  have divisor := Binary64.toRat_ofNat small_size
  have rounds := Binary64.rounds_div (Binary64.isFinite_ofNat_of_lt small)
    (Binary64.isFinite_ofNat_of_lt small_size)
  rw [dividend, divisor] at rounds
  have moderate : |(bytes.toNat / unit.size : ℚ)| < 2 ^ 900 := by
    have nonneg : (0 : ℚ) ≤ bytes.toNat := Nat.cast_nonneg _
    rw [abs_of_nonneg (div_nonneg nonneg (by linarith))]
    calc (bytes.toNat / unit.size : ℚ) ≤ bytes.toNat := div_le_self nonneg one_le
      _ < 2 ^ 53 := by exact_mod_cast small
      _ ≤ 2 ^ 900 := pow_le_pow_right₀ (by norm_num) (by norm_num)
  obtain ⟨finite, value⟩ := rounds (by linarith) moderate
  have exact := Binary64.nearest_dyadic small (by omega : exponent ≤ 1074)
  refine ⟨finite, ?_⟩
  rw [value, size, Nat.cast_pow, Nat.cast_ofNat, exact]

/-- The number of a size is its exact quotient, rounded to hundredths. -/
theorem exists_inUnits {unit : MiddleUnit} {bytes : UInt64} (reached : unit.Reached bytes) :
    ∃ hundredths, inUnits bytes unit.size = String.ofList (twoPlaces hundredths) ∧
      RoundsTo (100 * (bytes.toNat / unit.size)) hundredths := by
  obtain ⟨finite, value⟩ := toRat_quotient reached
  have positive : (0 : ℚ) < bytes.toNat / unit.size := by
    have size : 0 < unit.size := by cases unit <;> decide
    have bytes_pos : 0 < bytes.toNat := size.trans_le reached.1
    positivity
  rw [← value] at positive ⊢
  obtain ⟨hundredths, text, rounds⟩ := Binary64.exists_fixed_two finite positive
  exact ⟨hundredths, by rw [inUnits, text], rounds⟩

/-- Hundredths that are rounded from less than 1024 units are at most 1024 units, and
they are as many as that from half a hundredth below on. -/
theorem rounds_inside {size bytes hundredths : Nat} (low : size ≤ bytes)
    (high : bytes < 1024 * size) (rounds : RoundsTo (100 * (bytes / size)) hundredths) :
    100 ≤ hundredths ∧ hundredths ≤ 102400 ∧
      (hundredths < 102400 ↔ 200 * bytes < 204799 * size) := by
  have size_pos : (0 : ℚ) < size := by
    have : 0 < size := by omega
    exact_mod_cast this
  have scale : (bytes / size : ℚ) * size = bytes := div_mul_cancel₀ _ size_pos.ne'
  have least : (1 : ℚ) ≤ bytes / size := by
    rw [le_div_iff₀ size_pos, one_mul]
    exact_mod_cast low
  have most : (bytes / size : ℚ) < 1024 := by
    rw [div_lt_iff₀ size_pos]
    exact_mod_cast high
  have half : 200 * bytes < 204799 * size ↔ 200 * (bytes / size : ℚ) < 204799 := by
    rw [← mul_div_assoc, div_lt_iff₀ size_pos]
    norm_cast
  rw [half]
  obtain ⟨near, tie⟩ := rounds
  generalize (bytes / size : ℚ) = x at *
  obtain ⟨below, above⟩ := abs_le.1 near
  refine ⟨?_, ?_, ?_, ?_⟩
  · by_contra few
    have : (hundredths : ℚ) ≤ 99 := by exact_mod_cast Nat.le_of_lt_succ (not_le.1 few)
    linarith
  · by_contra many
    have : (102401 : ℚ) ≤ hundredths := by exact_mod_cast not_le.1 many
    linarith
  · intro less
    by_contra late
    -- Half a hundredth below 1024 units is a tie, and its even neighbour is above.
    have last : (hundredths : ℚ) ≤ 102399 := by exact_mod_cast Nat.le_of_lt_succ less
    have middle : 100 * x - hundredths = 1 / 2 := by linarith
    have even := tie (by rw [middle, abs_of_pos (by norm_num)])
    have exact : hundredths = 102399 := by
      have : (hundredths : ℚ) = 102399 := by linarith
      exact_mod_cast this
    rw [exact] at even
    exact absurd even (by decide)
  · intro early
    by_contra full
    have : (102400 : ℚ) ≤ hundredths := by exact_mod_cast not_lt.1 full
    linarith

/-- What a text in one of the middle units says. -/
structure ShownIn (unit : MiddleUnit) (bytes : UInt64) : Prop where
  /-- The unit is that of the sizes which reach it, but not the next one. -/
  reached : (∃ shown, byteSize bytes = shown ++ unit.symbol) ↔
    unit.size ≤ bytes.toNat ∧ bytes.toNat < 1024 * unit.size
  /-- The number in front of it is the quotient in hundredths: at least one unit, and below 1024
  of them unless not more than half a hundredth is missing to that. -/
  number : ∀ shown, byteSize bytes = shown ++ unit.symbol →
    ∃ hundredths, shown = String.ofList (twoPlaces hundredths) ∧
      RoundsTo (100 * (bytes.toNat / unit.size)) hundredths ∧
      100 ≤ hundredths ∧ hundredths ≤ 102400 ∧
      (hundredths < 102400 ↔ 200 * bytes.toNat < 204799 * unit.size)

/-- A size is shown in the unit that it reaches, even where its hundredths reach the next one. -/
theorem byteSize_in_unit (unit : MiddleUnit) (bytes : UInt64) : ShownIn unit bytes := by
  constructor
  · constructor
    · rintro ⟨shown, text⟩
      exact reached_of_byteSize text
    · intro reached
      exact ⟨_, byteSize_of_reached reached⟩
  · intro shown text
    have reached := reached_of_byteSize text
    obtain ⟨hundredths, written, rounds⟩ := exists_inUnits reached
    rw [byteSize_of_reached reached] at text
    have same : inUnits bytes unit.size = shown := by
      have characters := congrArg String.toList text
      rw [String.toList_append, String.toList_append] at characters
      exact String.toList_inj.1 (List.append_cancel_right characters)
    exact ⟨hundredths, same ▸ written, rounds, rounds_inside reached.1 reached.2 rounds⟩

/-- The last sizes below a megabyte are shown as 1024 kilobytes. -/
theorem byteSize_past_unit :
    byteSize 1048575 = "1024.00 KB" ∧
      ¬∀ (bytes : UInt64) (hundredths : Nat),
        byteSize bytes = String.ofList (twoPlaces hundredths) ++ " KB" →
          100 ≤ hundredths ∧ hundredths < 102400 := by
  have text : byteSize 1048575 = "1024.00 KB" := by decide +kernel
  refine ⟨text, ?_⟩
  intro fits
  exact absurd (fits 1048575 102400 text).2 (by decide)

end AccessTrace.Summary
