/-
Module: AccessTrace.Binary64.Arithmetic
Purpose: Whole numbers as binary64 numbers, and the four operations on them that planning needs.
Main exports:
  Binary64.ofNat, Binary64.ofInt, Binary64.sub, Binary64.mul, Binary64.div, Binary64.floorInt64
-/
import AccessTrace.Binary64.Rounding

namespace AccessTrace.Binary64

/-!
Every operation is the exact result, rounded once.  On finite operands the
exact result is a ratio of whole numbers in units; the cases with infinite
operands and with zero divisors follow the usual rules, and a result that has
no value is not a number.
-/

/-- The number nearest to a whole number. -/
def ofNat (n : Nat) : Binary64 :=
  ofRatio false (n * unitsOfOne) 1

/-- The number nearest to an integer; zero is positive. -/
def ofInt (n : Int) : Binary64 :=
  ofRatio (n < 0) (n.natAbs * unitsOfOne) 1

/-- The difference.  An exact zero is negative only where a positive zero is
taken from a negative one. -/
def sub : Binary64 → Binary64 → Binary64
  | .nan, _ | _, .nan => .nan
  | .infinite n, .infinite n' => if n = n' then .nan else .infinite n
  | .infinite n, .finite .. => .infinite n
  | .finite .., .infinite n' => .infinite !n'
  | .finite n r _, .finite n' r' _ =>
    let difference := withSign n (units r) - withSign n' (units r')
    if difference = 0 then zero (n && !n' && r == 0)
    else ofRatio (difference < 0) difference.natAbs 1

/-- The product. -/
def mul : Binary64 → Binary64 → Binary64
  | .nan, _ | _, .nan => .nan
  | .infinite n, .infinite n' => .infinite (n != n')
  | .infinite n, .finite n' r _ => if r = 0 then .nan else .infinite (n != n')
  | .finite n r _, .infinite n' => if r = 0 then .nan else .infinite (n != n')
  | .finite n r _, .finite n' r' _ => ofRatio (n != n') (units r * units r') unitsOfOne

/-- The quotient. -/
def div : Binary64 → Binary64 → Binary64
  | .nan, _ | _, .nan => .nan
  | .infinite _, .infinite _ => .nan
  | .infinite n, .finite n' _ _ => .infinite (n != n')
  | .finite n _ _, .infinite n' => zero (n != n')
  | .finite n r _, .finite n' r' _ =>
    if r' = 0 then (if r = 0 then .nan else .infinite (n != n'))
    else ofRatio (n != n') (units r * unitsOfOne) (units r')

instance : Neg Binary64 := ⟨neg⟩
instance : Sub Binary64 := ⟨sub⟩
instance : Mul Binary64 := ⟨mul⟩
instance : Div Binary64 := ⟨div⟩

/-- One hundred. -/
def hundred : Binary64 := ofNat 100

/-- The nearest 64-bit integer that is not beyond either end of their range. -/
def clampInt64 (value : Int) : Int64 :=
  Int64.ofInt (max (-0x8000000000000000) (min value 0x7FFFFFFFFFFFFFFF))

/-- The greatest integer that is not above the number, kept inside the 64-bit
integers.  What is not a number gives zero. -/
def floorInt64 : Binary64 → Int64
  | .nan => 0
  | .infinite negative => clampInt64 (if negative then -0x8000000000000000 else 0x7FFFFFFFFFFFFFFF)
  | .finite negative rank _ => clampInt64 (withSign negative (units rank) / (unitsOfOne : Int))

end AccessTrace.Binary64
