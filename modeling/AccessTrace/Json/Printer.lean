/-
Module: AccessTrace.Json.Printer
Purpose: JSON values as text, on one line or with a line for each member.
Main exports:
  Json.Form, Json.realLayout, Json.Value.print
-/
import AccessTrace.Binary64.Layout
import AccessTrace.Json.Quoted
import AccessTrace.Json.Value

namespace AccessTrace.Json

open AccessTrace.Text

/-- How members are set apart. -/
inductive Form where
  /-- Without any blanks. -/
  | compact
  /-- On lines of their own, each level set in by two blanks. -/
  | pretty
deriving DecidableEq, Repr

namespace Form

/-- What stands in front of a member, or of a closing brace, at a depth. -/
def lineBreak : Form → Nat → List Char
  | .compact, _ => []
  | .pretty, depth => '\n' :: List.replicate (2 * depth) ' '

/-- What stands between a key and its value. -/
def colon : Form → List Char
  | .compact => [':']
  | .pretty => [':', ' ']

end Form

/-- Reals with a point in whole numbers, and with an exponent from 10^16 on and
below 10^-5.  A value that is no finite number has no text of its own. -/
def realLayout : Binary64.Layout where
  tie := .toEven
  positional := fun point => -5 < point && point ≤ 16
  marksWhole := true
  notANumber := "null"
  infinity := "null"
  negativeInfinity := "null"

mutual

/-- The text of a value at a depth. -/
def print (form : Form) (depth : Nat) : Value → List Char
  | .null => ['n', 'u', 'l', 'l']
  | .boolean true => ['t', 'r', 'u', 'e']
  | .boolean false => ['f', 'a', 'l', 's', 'e']
  | .integer value => Numeral.ofInt value
  | .real value => realLayout.write value
  | .string text => quote text.toList
  | .object [] => ['\x7b', '\x7d']
  | .object ((key, value) :: members) =>
    '\x7b' :: form.lineBreak (depth + 1) ++ quote key.toList ++ form.colon ++
      print form (depth + 1) value ++ printRest form (depth + 1) members ++
      form.lineBreak depth ++ ['\x7d']

/-- The text of the members after the first one. -/
def printRest (form : Form) (depth : Nat) : List (String × Value) → List Char
  | [] => []
  | (key, value) :: members =>
    ',' :: form.lineBreak depth ++ quote key.toList ++ form.colon ++ print form depth value ++
      printRest form depth members

end

/-- The text of a value. -/
def Value.print (value : Value) (form : Form) : String :=
  String.ofList (Json.print form 0 value)

end AccessTrace.Json
