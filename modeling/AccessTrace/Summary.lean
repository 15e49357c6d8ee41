/-
Module: AccessTrace.Summary
Purpose: What a run tells its user: the configuration, the plan and the result, as lines of text.
Main exports:
  Summary.byteSize, Summary.configLines, Summary.configuration, Summary.derivedRatios,
  Summary.planned, Summary.report
-/
import AccessTrace.Binary64.Layout
import AccessTrace.Quotas
import AccessTrace.Text.Grouped

namespace AccessTrace.Summary

open AccessTrace.Text

/-!
Every text is a list of lines, so that a line can be set in or left out
without looking for line feeds in it.  Percentages have one place after the
point and sizes two.
-/

/-- The decimal digits of a number. -/
def number (n : Nat) : String :=
  String.ofList (Numeral.ofNat n)

/-- A percentage with one place. -/
def percent (value : Binary64) : String :=
  String.ofList (value.fixed 1) ++ "%"

/-- A number with two places, counted in units of so many bytes. -/
def inUnits (bytes : UInt64) (unit : Nat) : String :=
  String.ofList ((Binary64.ofNat bytes.toNat / Binary64.ofNat unit).fixed 2)

/-- How many bytes a kilobyte has. -/
def kilobyte : Nat := 1024

/-- How many bytes a megabyte has. -/
def megabyte : Nat := 1024 * kilobyte

/-- How many bytes a gigabyte has. -/
def gigabyte : Nat := 1024 * megabyte

/-- How many bytes a terabyte has. -/
def terabyte : Nat := 1024 * gigabyte

/-- A size in the largest unit that it reaches. -/
def byteSize (bytes : UInt64) : String :=
  let n := bytes.toNat
  if terabyte ≤ n then inUnits bytes terabyte ++ " TB"
  else if gigabyte ≤ n then inUnits bytes gigabyte ++ " GB"
  else if megabyte ≤ n then inUnits bytes megabyte ++ " MB"
  else if kilobyte ≤ n then inUnits bytes kilobyte ++ " KB"
  else number n ++ " B"

/-- The parameters, one line each; the seed only where there is one. -/
def configLines (config : Config) : List String :=
  ["  Max address:        " ++ number config.maxAddress.toNat,
    "  Instructions:       " ++ number config.instructionCount.toNat,
    "  Write ratio:        " ++ percent config.writeRatio,
    "  Write sequential:   " ++ percent (config.writeSequentialFraction * .hundred),
    "  Read sequential:    " ++ percent (config.readSequentialFraction * .hundred),
    "  Block size:         " ++ number config.blockSize.toNat,
    "  Sequential blocks:  " ++ number config.sequentialBlockCount.toNat,
    "  Align to block:     " ++ toString config.alignToBlockSize] ++
  config.seed.toList.map fun seed => "  Seed:               " ++ number seed.toNat

/-- The configuration of a run. -/
def configuration (config : Config) (output : OutputTargets) : List String :=
  ["Configuration:", "  Trace file:         " ++ output.traceFile] ++
  output.jsonReport.toList.map ("  JSON report:        " ++ ·) ++
  configLines config ++
  ["  Address space:      " ++ byteSize config.maxAddress]

/-- The percentages that follow from the parameters. -/
def derivedRatios (config : Config) : List String :=
  let derived := config.derivedRatios
  ["Read Instruction Ratio: " ++ percent derived.readPercent,
    "Read Random Instruction Ratio: " ++ percent derived.readRandomPercent,
    "Write Random Instruction Ratio: " ++ percent derived.writeRandomPercent]

/-- A quota, with its sign. -/
def quota (value : Int64) : String :=
  String.ofList (Numeral.ofInt value.toInt)

/-- The quotas of a plan, negative ones included. -/
def planned (quotas : Quotas) : List String :=
  ["SW commands: " ++ quota quotas.sequentialWrite,
    "SR commands: " ++ quota quotas.sequentialRead,
    "RW commands: " ++ quota quotas.randomWrite,
    "RR commands: " ++ quota quotas.randomRead]

/-- Lines set in by two blanks. -/
def indented (lines : List String) : List String :=
  lines.map ("  " ++ ·)

/-- A count with its digits in groups. -/
def grouped (count : UInt64) : String :=
  String.ofList (Grouped.ofNat count.toNat)

/-- The accesses of a run, by class and in all. -/
def emitted (counts : ClassCounts) : List String :=
  ["Emitted:",
    "  Sequential write: " ++ grouped counts.sequentialWrite,
    "  Sequential read:  " ++ grouped counts.sequentialRead,
    "  Random write:     " ++ grouped counts.randomWrite,
    "  Random read:      " ++ grouped counts.randomRead,
    "  Total:            " ++ grouped counts.total ++ " (" ++ grouped counts.reads ++ " reads, " ++
      grouped counts.writes ++ " writes)"]

/-- The line above and below a heading. -/
def rule : String :=
  String.ofList (List.replicate 59 '═')

/-- The result of a run, with the file that holds the trace. -/
def report (report : Report) (traceFile : Option String) : List String :=
  [rule, "                    TRACE SUMMARY", rule, ""] ++
  (match traceFile with
    | some path => ["Trace file " ++ path ++ " has been generated successfully!", ""]
    | none => []) ++
  ["Planned:"] ++ indented (planned report.planned) ++ [""] ++ emitted report.emitted

/-- Lines as one text, with a line feed after each. -/
def block (lines : List String) : String :=
  String.join (lines.map (· ++ "\n"))

/-- Lines as one text, with line feeds between them. -/
def joined (lines : List String) : String :=
  "\n".intercalate lines

end AccessTrace.Summary
