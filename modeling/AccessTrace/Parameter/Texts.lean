/-
Module: AccessTrace.Parameter.Texts
Purpose: The texts that parameters are given as: sizes, counts and percentages.
Main exports:
  Parameter.readSize, Parameter.readCount, Parameter.readPercent, Parameter.positive
-/
import AccessTrace.Parameter.Error
import AccessTrace.Text.Blank

namespace AccessTrace.Parameter

open AccessTrace.Text

/-!
A count is an integer.  A size is an integer with perhaps a unit behind it:
`k`, `m`, `g` or `t`, each alone or followed by `b`, in letters of either
case.  The unit is told by the end of the text.  Once it is known, every
ending of that unit is taken off, so that a repeated one counts once.

Integers and the products with a unit are limited to 128 bits.  A number
beyond that limit is no number; one within it that is zero or negative is
reported as such, and one that is too large for 64 bits is again no number.
A complaint shows the text as it was given, blanks included.
-/

/-- The units of a size. -/
inductive SizeUnit where
  | kibi
  | mebi
  | gibi
  | tebi
deriving DecidableEq, Repr

namespace SizeUnit

/-- The letter of a unit. -/
def letter : SizeUnit → Char
  | .kibi => 'k'
  | .mebi => 'm'
  | .gibi => 'g'
  | .tebi => 't'

/-- How many bytes a unit stands for. -/
def bytes : SizeUnit → Int
  | .kibi => 1024
  | .mebi => 1024 * 1024
  | .gibi => 1024 * 1024 * 1024
  | .tebi => 1024 * 1024 * 1024 * 1024

/-- The unit with a given letter. -/
def ofLetter? (c : Char) : Option SizeUnit :=
  [SizeUnit.kibi, .mebi, .gibi, .tebi].find? (·.letter == c)

end SizeUnit

/-- The small letter of a capital one.  The Kelvin sign is a capital K as well;
no other character outside the ASCII letters has a small letter that is a
unit, a digit or a sign. -/
def lowerLetter (c : Char) : Char :=
  if c.toNat == 0x212A then 'k' else c.toLower

/-- The unit at the end of a text that is given from its end. -/
def unitAtEnd? : List Char → Option SizeUnit
  | 'b' :: c :: _ => SizeUnit.ofLetter? c
  | c :: _ => SizeUnit.ofLetter? c
  | [] => none

/-- Takes `letter` and `b` off the front of a text, as often as they stand
there in the order `b`, `letter`. -/
def dropPairs (letter : Char) : List Char → List Char
  | 'b' :: c :: rest => if c = letter then dropPairs letter rest else 'b' :: c :: rest
  | text => text

/-- A text without the endings of a unit: first those of two letters, then
those of one. -/
def dropUnit (unit : SizeUnit) (text : List Char) : List Char :=
  ((dropPairs unit.letter text.reverse).dropWhile (· == unit.letter)).reverse

/-- Whether an integer has 128 bits at most. -/
def isWide (n : Int) : Bool :=
  -0x80000000000000000000000000000000 ≤ n && n < 0x80000000000000000000000000000000

/-- An integer within 128 bits. -/
def wideInteger? (text : List Char) : Option Int :=
  (Numeral.integer? text).filter isWide

/-- A number that has to be positive and to fit into 64 bits. -/
def positive (field : Field) (text : String) (value : Int) : Except ParameterError UInt64 :=
  if value ≤ 0 then .error (.notPositive field value)
  else if value < UInt64.size then .ok (UInt64.ofNat value.toNat)
  else .error (.notANumber field text)

/-- How many bytes the text of a size stands for. -/
def sizeInBytes? (text : List Char) : Option Int :=
  let lowered := (trim text).map lowerLetter
  match unitAtEnd? lowered.reverse with
  | none => wideInteger? lowered
  | some unit =>
    (wideInteger? (trim (dropUnit unit lowered))).bind fun n =>
      if isWide (n * unit.bytes) then some (n * unit.bytes) else none

/-- Reads a size. -/
def readSize (field : Field) (text : String) : Except ParameterError UInt64 :=
  match sizeInBytes? text.toList with
  | some bytes => positive field text bytes
  | none => .error (.notANumber field text)

/-- Reads a count. -/
def readCount (field : Field) (text : String) : Except ParameterError UInt64 :=
  match wideInteger? (trim text.toList) with
  | some n => positive field text n
  | none => .error (.notANumber field text)

/-- Reads a percentage, or a fraction: any finite number. -/
def readPercent (field : Field) (text : String) : Except ParameterError Binary64 :=
  match (Binary64.read? (trim text.toList)).filter (·.isFinite) with
  | some value => .ok value
  | none => .error (.notANumber field text)

end AccessTrace.Parameter
