/-
Module: AccessTrace.Binary64.Rounding
Purpose: The binary64 number nearest to a ratio.
Main exports:
  roundHalfEven, Binary64.roundRank, Binary64.ofRatio
-/
import AccessTrace.Binary64.Basic

namespace AccessTrace

/-- The whole number nearest to `num / den`; of two equally near ones, the
even one. -/
def roundHalfEven (num den : Nat) : Nat :=
  let quotient := num / den
  let remainder := num % den
  if 2 * remainder < den then quotient
  else if den < 2 * remainder then quotient + 1
  else quotient + quotient % 2

namespace Binary64

/-!
One function rounds every result.  Its argument is a ratio of whole numbers,
the magnitude in units.  The steps of the binade that holds the ratio are
2^`shift` units wide; the ratio is rounded to the nearest multiple of a step,
and the rank of that multiple follows from the shift and the count of steps.
When rounding reaches the end of a binade, the same sum is the first rank of
the next one.  A rank past the last finite one is an infinite result.
-/

/-- The rank of the magnitude nearest to `num / den` units, were there no end
to the ranks. -/
def roundRank (num den : Nat) : Nat :=
  let shift := Nat.log2 (num / den) - 52
  shift * binade + roundHalfEven num (den <<< shift)

/-- The number nearest to `num / den` units, with the given sign. -/
def ofRatio (negative : Bool) (num den : Nat) : Binary64 :=
  if h : roundRank num den < rankCount then .finite negative (roundRank num den) h
  else .infinite negative

end Binary64
end AccessTrace
