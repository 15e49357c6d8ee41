/-
Module: AccessTrace.Binary64.Shortest
Purpose: The fewest decimal digits that read back to a binary64 number.
Main exports:
  Binary64.Tie, Binary64.Digits, Binary64.shortestDigits
-/
import AccessTrace.Binary64.Decimal

namespace AccessTrace.Binary64

open AccessTrace.Text

/-!
With one digit, then two, and so on, the two decimal numbers next to a
magnitude are tried, the one below it and the one above.  The first count of
digits at which one of them reads back to the magnitude wins.  If both do, the
nearer one is taken, and a tie is settled as the caller asks.  Seventeen
digits are enough for every magnitude; the exact expansion, which always reads
back, stands behind them.
-/

/-- Which of two equally near decimal numbers is taken. -/
inductive Tie where
  | toUpper
  | toEven
deriving DecidableEq, Repr

/-- The decimal number 0.d₁d₂…dₙ times ten to the power `point`. -/
structure Digits where
  digits : List Char
  point : Int
deriving DecidableEq, Repr

namespace Digits

/-- `significand * 10 ^ exponent`, without zeros at the end. -/
def ofScaled (significand : Nat) (exponent : Int) : Digits :=
  let all := Numeral.ofNat significand
  { digits := (all.reverse.dropWhile (· == '0')).reverse
    point := all.length + exponent }

end Digits

/-- A magnitude in units, divided by `10 ^ exponent` and written as a ratio. -/
def scaledRatio (magnitude : Nat) (exponent : Int) : Nat × Nat :=
  if 0 ≤ exponent then (magnitude, unitsOfOne * Numeral.powerOfTen exponent.toNat)
  else (magnitude * Numeral.powerOfTen (-exponent).toNat, unitsOfOne)

/-- The exponent of the leading decimal digit of a positive magnitude in
units. -/
def leadingExponent (magnitude : Nat) : Int :=
  ((Numeral.ofNat (magnitude * Numeral.powerOfTen 400 / unitsOfOne)).length : Int) - 401

/-- Whether `significand * 10 ^ exponent` is read as the magnitude of the given
rank. -/
def readsBack (rank significand : Nat) (exponent : Int) : Bool :=
  match ofDecimal false significand exponent with
  | .finite _ rank' _ => rank' == rank
  | _ => false

/-- The multiple of `10 ^ exponent` that stands for a magnitude, if one of the
two next to it reads back. -/
def neighbour? (tie : Tie) (rank : Nat) (exponent : Int) : Option Nat :=
  let (num, den) := scaledRatio (units rank) exponent
  let below := num / den
  let remainder := num % den
  let belowReads := readsBack rank below exponent
  let aboveReads := remainder != 0 && readsBack rank (below + 1) exponent
  if belowReads && aboveReads then
    if 2 * remainder < den then some below
    else if den < 2 * remainder then some (below + 1)
    else match tie with
      | .toUpper => some (below + 1)
      | .toEven => some (below + below % 2)
  else if belowReads then some below
  else if aboveReads then some (below + 1)
  else none

/-- The fewest digits that read back to the magnitude of a positive rank. -/
def shortestDigits (tie : Tie) (rank : Nat) : Digits :=
  let leading := leadingExponent (units rank)
  let attempt (count : Nat) : Option Digits :=
    let exponent := leading - count
    (neighbour? tie rank exponent).map fun significand => .ofScaled significand exponent
  ((List.range 17).findSome? attempt).getD (.ofScaled (units rank * Nat.pow 5 1074) (-1074))

end AccessTrace.Binary64
