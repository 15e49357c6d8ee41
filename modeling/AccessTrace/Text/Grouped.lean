/-
Module: AccessTrace.Text.Grouped
Purpose: Numbers with their digits in groups of three.
Main exports:
  separate, ofNat
-/
import AccessTrace.Text.Numeral

namespace AccessTrace.Text.Grouped

/-- Puts a comma in front of every group of three digits, counted from the
right, except where the text begins. -/
def separate : List Char → List Char
  | [] => []
  | [d] => [d]
  | d :: e :: rest =>
    if (e :: rest).length % 3 = 0 then d :: ',' :: separate (e :: rest)
    else d :: separate (e :: rest)

/-- The decimal digits of a number in groups of three. -/
def ofNat (n : Nat) : List Char :=
  separate (Numeral.ofNat n)

end AccessTrace.Text.Grouped
