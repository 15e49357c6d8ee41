/-
Module: AccessTrace.Binary64.Basic
Purpose: The binary64 numbers as values, with their order.
Main exports:
  Binary64, Binary64.units, Binary64.withSign, Binary64.isFinite, Binary64.le
-/
namespace AccessTrace

/-!
A finite binary64 magnitude is a whole number of *units*, a unit being
2^(-1074), the smallest positive magnitude.  The magnitudes in increasing
order are counted from zero, and the count is called the *rank*: the first
2^52 ranks are the subnormal numbers, where rank and units agree, and every
further run of 2^52 ranks is one binade, whose steps are twice as wide as
those of the binade before it.  A rank determines its magnitude and is
determined by it, so every value has one representation.

Zero carries a sign, as every other value does.  All values that are not
numbers are one value.
-/

/-- How many ranks a binade has: two to the power 52. -/
def Binary64.binade : Nat := 0x10000000000000

/-- A binary64 number. -/
inductive Binary64 where
  | nan
  | infinite (negative : Bool)
  | finite (negative : Bool) (rank : Nat) (rank_lt : rank < 2047 * Binary64.binade)
deriving DecidableEq

namespace Binary64

/-- How many finite magnitudes there are. -/
def rankCount : Nat := 2047 * binade

/-- How many units make the number one. -/
def unitsOfOne : Nat := 1 <<< 1074

/-- The magnitude of a rank, in units. -/
def units (rank : Nat) : Nat :=
  if rank < binade then rank else (binade + rank % binade) <<< (rank / binade - 1)

/-- Zero, with the given sign. -/
def zero (negative : Bool) : Binary64 :=
  .finite negative 0 (by decide)

instance : Inhabited Binary64 := ⟨zero false⟩

/-- A magnitude in units with a sign in front of it. -/
def withSign (negative : Bool) (magnitude : Nat) : Int :=
  if negative then -(magnitude : Int) else magnitude

/-- Neither infinite nor a value that is not a number. -/
def isFinite : Binary64 → Bool
  | .finite .. => true
  | _ => false

/-- The number with the opposite sign. -/
def neg : Binary64 → Binary64
  | .nan => .nan
  | .infinite negative => .infinite !negative
  | .finite negative rank h => .finite (!negative) rank h

/-- The order of the numbers.  The two zeros are equal in it, and a value that
is not a number is not below, above or equal to anything. -/
def le : Binary64 → Binary64 → Bool
  | .nan, _ | _, .nan => false
  | .infinite true, _ | _, .infinite false => true
  | .infinite false, _ | _, .infinite true => false
  | .finite n r _, .finite n' r' _ => withSign n (units r) ≤ withSign n' (units r')

end Binary64
end AccessTrace
