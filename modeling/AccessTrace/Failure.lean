/-
Module: AccessTrace.Failure
Purpose: Why a run failed, with what it was doing at the time.
Main exports:
  Cause, Failure, Failure.during, Failure.message, Failure.report
-/
import AccessTrace.Parameter.Error
import AccessTrace.Record
import AccessTrace.Storage.Error
import AccessTrace.Text.Numeral
import AccessTrace.Text.Parts

namespace AccessTrace

open AccessTrace.Text

/-!
A failure is a cause and the steps that it happened in, the outermost first.
It is shown in two ways: on one line, with every part after a colon, and as a
report, with the outermost part on top and the others numbered below it.  A
refused write appears twice in both, once with the path and once by itself.
-/

/-- What went wrong. -/
inductive Cause where
  | parameter (error : ParameterError)
  | malformedLine (error : MalformedLine)
  | io (error : IoError)
  /-- A file could not be written. -/
  | sink (path : String) (error : IoError)
  /-- The text of a configuration file is not of the right form. -/
  | configText (reason : String)
  /-- A trace has another number of records than its report says. -/
  | recordCount (path : String) (found expected : Nat)
  /-- A trace has other numbers of reads and writes than its report says. -/
  | kindSplit (path : String) (reads writes expectedReads expectedWrites : Nat)
deriving DecidableEq

namespace Cause

/-- The parts of a cause, the outermost first. -/
def parts : Cause → List String
  | .parameter error => [error.message]
  | .malformedLine error => [error.message]
  | .io error => [error.message]
  | .sink path error => ["failed to write " ++ path ++ ": " ++ error.message, error.message]
  | .configText reason => [reason]
  | .recordCount path found expected =>
    [path ++ " holds " ++ String.ofList (Numeral.ofNat found) ++ " records, expected " ++
      String.ofList (Numeral.ofNat expected)]
  | .kindSplit path reads writes expectedReads expectedWrites =>
    [path ++ " holds " ++ String.ofList (Numeral.ofNat reads) ++ " reads and " ++
      String.ofList (Numeral.ofNat writes) ++ " writes, expected " ++
      String.ofList (Numeral.ofNat expectedReads) ++ " and " ++
      String.ofList (Numeral.ofNat expectedWrites)]

end Cause

/-- A cause, and the steps it happened in. -/
structure Failure where
  steps : List String := []
  cause : Cause
deriving DecidableEq

namespace Failure

/-- The failure as part of a larger step. -/
def within (step : String) (failure : Failure) : Failure :=
  { failure with steps := step :: failure.steps }

/-- All parts, the outermost first. -/
def parts (failure : Failure) : List String :=
  failure.steps ++ failure.cause.parts

/-- The failure on one line. -/
def message (failure : Failure) : String :=
  ": ".intercalate failure.parts

/-- A part with a label in front and its further lines set in as far. -/
def labelled (label : String) (part : String) : String :=
  label ++ ("\n" ++ String.ofList (List.replicate label.length ' ')).intercalate
    (partsOf '\n' part)

/-- The label of a numbered part. -/
def numberLabel (number : Nat) : String :=
  let digits := Numeral.ofNat number
  String.ofList (List.replicate (5 - digits.length) ' ' ++ digits) ++ ": "

/-- The failure as a report of several lines. -/
def report (failure : Failure) : String :=
  match failure.parts with
  | [] => "Error: "
  | [top] => "Error: " ++ top
  | [top, below] => "Error: " ++ top ++ "\n\nCaused by:\n" ++ labelled "    " below
  | top :: below =>
    "Error: " ++ top ++ "\n\nCaused by:\n" ++
      "\n".intercalate (below.zipIdx.map fun (part, i) => labelled (numberLabel i) part)

/-- A result whose failure, if it has one, is part of a larger step. -/
def during {α : Type} (step : String) (result : Except Failure α) : Except Failure α :=
  result.mapError (·.within step)

end Failure

end AccessTrace
