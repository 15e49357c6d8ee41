/-
Module: AccessTrace.Binary64.Decimal
Purpose: Decimal numerals with a fraction and an exponent, read as binary64 numbers.
Main exports:
  Binary64.ofDecimal, Binary64.read?
-/
import AccessTrace.Binary64.Arithmetic
import AccessTrace.Text.Numeral

namespace AccessTrace.Binary64

open AccessTrace.Text

/-!
A numeral stands for an exact decimal number and is read as the binary64
number nearest to it, however many digits it has.  Powers of ten far outside
the range of the finite numbers are settled without being computed: one with
an exponent above 400 exceeds every finite number, and one so small that not
even the digits in front of it reach half a unit is zero.
-/

/-- The number nearest to `digits * 10 ^ exponent`, with the given sign. -/
def ofDecimal (negative : Bool) (digits : Nat) (exponent : Int) : Binary64 :=
  if digits = 0 then zero negative
  else if exponent > 400 then .infinite negative
  else if exponent < -(400 + (Nat.log2 digits : Int)) then zero negative
  else if 0 ≤ exponent then
    ofRatio negative (digits * Numeral.powerOfTen exponent.toNat * unitsOfOne) 1
  else ofRatio negative (digits * unitsOfOne) (Numeral.powerOfTen (-exponent).toNat)

/-- The exponent after the digits of a numeral; there may be none. -/
def readExponent? : List Char → Option Int
  | [] => some 0
  | 'e' :: rest | 'E' :: rest => Numeral.integer? rest
  | _ => none

/-- A numeral without a sign: digits, a point among, before or behind them,
then perhaps an exponent. -/
def readMagnitude? (negative : Bool) (text : List Char) : Option Binary64 :=
  let whole := text.takeWhile Char.isDigit
  match text.dropWhile Char.isDigit with
  | '.' :: rest =>
    let fraction := rest.takeWhile Char.isDigit
    if whole.isEmpty && fraction.isEmpty then none
    else (readExponent? (rest.dropWhile Char.isDigit)).map fun exponent =>
      ofDecimal negative (Nat.ofDigitChars 10 (whole ++ fraction) 0) (exponent - fraction.length)
  | rest =>
    if whole.isEmpty then none
    else (readExponent? rest).map fun exponent =>
      ofDecimal negative (Nat.ofDigitChars 10 whole 0) exponent

/-- A numeral without a sign, or one of the words for what has no digits, in
letters of either case. -/
def readUnsigned? (negative : Bool) (text : List Char) : Option Binary64 :=
  let lowered := String.ofList (text.map Char.toLower)
  if lowered = "inf" || lowered = "infinity" then some (.infinite negative)
  else if lowered = "nan" then some .nan
  else readMagnitude? negative text

/-- The number that a text stands for, if it is a numeral as a whole. -/
def read? : List Char → Option Binary64
  | '+' :: rest => readUnsigned? false rest
  | '-' :: rest => readUnsigned? true rest
  | text => readUnsigned? false text

end AccessTrace.Binary64
