/-
Module: AccessTrace.Text.Hexadecimal
Purpose: Digits in base sixteen, read and written.
Main exports:
  digit?, natural?, digit
-/
namespace AccessTrace.Text.Hexadecimal

/-- The value of a digit; its letters may be of either case. -/
def digit? (c : Char) : Option Nat :=
  if c.isDigit then some (c.toNat - '0'.toNat)
  else if 'a' ≤ c && c ≤ 'f' then some (c.toNat - 'a'.toNat + 10)
  else if 'A' ≤ c && c ≤ 'F' then some (c.toNat - 'A'.toNat + 10)
  else none

/-- The number that digits stand for. -/
def natural? (digits : List Char) : Option Nat :=
  (digits.mapM digit?).map fun values => values.foldl (fun n d => 16 * n + d) 0

/-- The digit for a value below sixteen, with small letters. -/
def digit (n : Nat) : Char :=
  Nat.digitChar n

end AccessTrace.Text.Hexadecimal
