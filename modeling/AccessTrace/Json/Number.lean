/-
Module: AccessTrace.Json.Number
Purpose: JSON numbers: how they are written, and what they stand for.
Main exports:
  Json.NumberText, Json.Number, Json.NumberText.value, Json.NumberText.real
-/
import AccessTrace.Binary64.Decimal
import AccessTrace.Json.Fault

namespace AccessTrace.Json

/-!
A whole number without a fraction or an exponent is exact as far as 64 bits
hold it.  Any other number is a real, and it is read in two steps.  Its leading
digits are taken as one whole number as long as 64 bits hold it, and those
behind them only count for the exponent, or for nothing.  That number is then
multiplied or divided by a power of ten.  Both steps round, so the result may
be a neighbour of the nearest real.
-/

/-- The mark of an exponent and what stands behind it. -/
structure ExponentText where
  negative : Bool
  digits : List Char
deriving DecidableEq, Repr

/-- A number as it is written. -/
structure NumberText where
  negative : Bool
  whole : List Char
  /-- The digits behind the point; none if there is no point. -/
  fraction : List Char := []
  exponent : Option ExponentText := none
deriving DecidableEq, Repr

/-- A number by the way in which it is known. -/
inductive Number where
  | natural (value : UInt64)
  | negative (value : Int64)
  | real (value : Binary64)
deriving DecidableEq

/-- The number as a real. -/
def Number.toReal : Number → Binary64
  | .natural value => .ofNat value.toNat
  | .negative value => .ofInt value.toInt
  | .real value => value

/-- Digits appended to a number as long as 64 bits hold it: the number, and
how many digits there was no room for. -/
def appendDigits (number : Nat) : List Char → Nat × Nat
  | [] => (number, 0)
  | digit :: rest =>
    let next := Nat.ofDigitChars 10 [digit] number
    if next < UInt64.size then appendDigits next rest else (number, rest.length + 1)

/-- The greatest exponent that a power of ten can have. -/
def greatestPower : Nat := 308

/-- A power of ten. -/
def powerOfTen (exponent : Nat) : Binary64 :=
  .ofDecimal false 1 exponent

/-- A magnitude times a power of ten, as far as that is finite. -/
def scaleUp (magnitude : Binary64) (exponent : Nat) : Except Fault Binary64 :=
  if exponent ≤ greatestPower then
    let result := magnitude * powerOfTen exponent
    if result.isFinite then .ok result else .error .malformed
  else if magnitude = .zero false then .ok magnitude
  else .error .malformed

/-- A magnitude divided by a power of ten, one greatest power at a time. -/
def scaleDown (magnitude : Binary64) (exponent : Nat) : Binary64 :=
  if exponent ≤ greatestPower then magnitude / powerOfTen exponent
  else if magnitude = .zero false then magnitude
  else scaleDown (magnitude / powerOfTen greatestPower) (exponent - greatestPower)
termination_by exponent
decreasing_by simp only [greatestPower] at *; omega

/-- A magnitude times a power of ten. -/
def scale (magnitude : Binary64) : Int → Except Fault Binary64
  | .ofNat exponent => scaleUp magnitude exponent
  | .negSucc exponent => .ok (scaleDown magnitude (exponent + 1))

namespace NumberText

/-- The exponent as a number. -/
def exponentValue (text : NumberText) : Int :=
  match text.exponent with
  | none => 0
  | some exponent =>
    let magnitude := Nat.ofDigitChars 10 exponent.digits 0
    if exponent.negative then -(magnitude : Int) else magnitude

/-- A whole number with the sign of the text.  There is no integer for a
negative zero, nor for a number below all those of 64 bits. -/
def exact (text : NumberText) (magnitude : Nat) : Number :=
  if !text.negative then .natural (UInt64.ofNat magnitude)
  else if 0 < magnitude && magnitude ≤ 0x8000000000000000 then
    .negative (Int64.ofInt (-(magnitude : Int)))
  else .real (-Binary64.ofNat magnitude)

/-- The number that a text stands for.  A real that is not finite is refused. -/
def value (text : NumberText) : Except Fault Number :=
  let (whole, dropped) := appendDigits 0 text.whole
  if text.fraction.isEmpty && text.exponent.isNone && dropped = 0 then .ok (text.exact whole)
  else
    let (significand, ignored) := appendDigits whole text.fraction
    let places := text.fraction.length - ignored
    (scale (.ofNat significand) (text.exponentValue + dropped - places)).map fun magnitude =>
      .real (if text.negative then -magnitude else magnitude)

/-- The real that a text stands for; an integer is one too. -/
def real (text : NumberText) : Except Fault Binary64 :=
  text.value.map Number.toReal

end NumberText
end AccessTrace.Json
