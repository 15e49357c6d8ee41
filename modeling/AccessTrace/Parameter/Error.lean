/-
Module: AccessTrace.Parameter.Error
Purpose: The parameters of a run by name, and what can be wrong with them.
Main exports:
  Field, Field.name, SpanClass, ParameterError, ParameterError.message
-/
import AccessTrace.Binary64.Layout

namespace AccessTrace

open AccessTrace.Text

/-!
Every complaint about a parameter names the parameter and shows the value it
was given.  A text that is no number and a number that is not positive are
told apart.
-/

/-- The numeric parameters. -/
inductive Field where
  | maxAddress
  | instructionCount
  | blockSize
  | sequentialBlockCount
  | writeRatio
  | writeSequentialFraction
  | readSequentialFraction
deriving DecidableEq, Repr

/-- The name of a parameter in messages and in configuration files. -/
def Field.name : Field → String
  | .maxAddress => "max_address"
  | .instructionCount => "instruction_count"
  | .blockSize => "block_size"
  | .sequentialBlockCount => "sequential_block_count"
  | .writeRatio => "write_ratio"
  | .writeSequentialFraction => "write_sequential_fraction"
  | .readSequentialFraction => "read_sequential_fraction"

/-- The two kinds of draw, by the span of addresses they need. -/
inductive SpanClass where
  | random
  | sequential
deriving DecidableEq, Repr

/-- The word for a kind of draw. -/
def SpanClass.name : SpanClass → String
  | .random => "random"
  | .sequential => "sequential"

/-- What can be wrong with the parameters of a run. -/
inductive ParameterError where
  /-- The text is not a number, or its number is out of reach. -/
  | notANumber (field : Field) (text : String)
  /-- The number is zero or negative. -/
  | notPositive (field : Field) (value : Int)
  /-- The ratio lies outside its interval. -/
  | outOfRange (field : Field) (value least greatest : Binary64)
  /-- The address space does not hold the span that a draw needs. -/
  | spanTooLarge (spanClass : SpanClass) (maxAddress : UInt64) (span : Nat)
deriving DecidableEq

/-- The message about a parameter. -/
def ParameterError.message : ParameterError → String
  | .notANumber field text =>
    "invalid numeric input for " ++ field.name ++ ": '" ++ text ++ "'"
  | .notPositive field value =>
    field.name ++ " must be a positive integer, got " ++ String.ofList (Numeral.ofInt value)
  | .outOfRange field value least greatest =>
    field.name ++ " must be between " ++ least.text ++ " and " ++ greatest.text ++
      ", got " ++ value.text
  | .spanTooLarge spanClass maxAddress span =>
    "max_address " ++ String.ofList (Numeral.ofNat maxAddress.toNat) ++ " is too small for a " ++
      spanClass.name ++ " span of " ++ String.ofList (Numeral.ofNat span) ++ " bytes"

end AccessTrace
