/-
Module: AccessTrace.Binary64.Layout
Purpose: Binary64 numbers as text: with the fewest digits, or with a set number of places.
Main exports:
  Binary64.Layout, Binary64.Layout.write, Binary64.plain, Binary64.fixed
-/
import AccessTrace.Binary64.Shortest

namespace AccessTrace.Binary64

open AccessTrace.Text

/-!
A text with the fewest digits leaves open how the digits are laid out.  The
decisions of one output format are one `Layout` value, kept beside the format.
-/

/-- The decisions of an output format on numbers with the fewest digits. -/
structure Layout where
  /-- Which of two equally near texts is taken. -/
  tie : Tie
  /-- The powers of ten, as in `Digits.point`, that are written without an
  exponent. -/
  positional : Int → Bool
  /-- Whether a whole number without an exponent ends in a point and a zero. -/
  marksWhole : Bool
  notANumber : String
  infinity : String
  negativeInfinity : String

namespace Layout

/-- Digits around the point, without an exponent. -/
def writePositional (marksWhole : Bool) (value : Digits) : List Char :=
  let count : Int := value.digits.length
  if value.point ≤ 0 then
    '0' :: '.' :: (List.replicate (-value.point).toNat '0' ++ value.digits)
  else if count ≤ value.point then
    value.digits ++ List.replicate (value.point - count).toNat '0' ++
      (if marksWhole then ['.', '0'] else [])
  else
    value.digits.take value.point.toNat ++ '.' :: value.digits.drop value.point.toNat

/-- One digit before the point, the others after it, and a signed exponent. -/
def writeScientific (value : Digits) : List Char :=
  let exponent := value.point - 1
  let mantissa := match value.digits with
    | [] => ['0']
    | [d] => [d]
    | d :: rest => d :: '.' :: rest
  mantissa ++ 'e' :: (if exponent < 0 then '-' else '+') :: Numeral.ofNat exponent.natAbs

/-- The text of a finite magnitude. -/
def writeMagnitude (layout : Layout) (rank : Nat) : List Char :=
  if rank = 0 then '0' :: (if layout.marksWhole then ['.', '0'] else [])
  else
    let value := shortestDigits layout.tie rank
    if layout.positional value.point then writePositional layout.marksWhole value
    else writeScientific value

/-- The text of a number. -/
def write (layout : Layout) : Binary64 → List Char
  | .nan => layout.notANumber.toList
  | .infinite negative =>
    (if negative then layout.negativeInfinity else layout.infinity).toList
  | .finite negative rank _ =>
    (if negative then ['-'] else []) ++ layout.writeMagnitude rank

end Layout

/-- Numbers in messages: never an exponent, and no point in a whole number. -/
def plain : Layout where
  tie := .toUpper
  positional := fun _ => true
  marksWhole := false
  notANumber := "NaN"
  infinity := "inf"
  negativeInfinity := "-inf"

/-- The text of a number in a message. -/
def text (value : Binary64) : String :=
  String.ofList (plain.write value)

/-- The text with a set number of places.  The exact value is rounded, a half
goes to the even neighbour, and a negative number keeps its sign even where
all its digits are zeros. -/
def fixed (places : Nat) : Binary64 → List Char
  | .finite negative rank _ =>
    let scaled := roundHalfEven (units rank * Numeral.powerOfTen places) unitsOfOne
    let fraction := Numeral.ofNat (scaled % Numeral.powerOfTen places)
    (if negative then ['-'] else []) ++ Numeral.ofNat (scaled / Numeral.powerOfTen places) ++
      '.' :: (List.replicate (places - fraction.length) '0' ++ fraction)
  | value => plain.write value

end AccessTrace.Binary64
