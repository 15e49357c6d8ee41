/-
Module: AccessTrace.ConfigFile
Purpose: Configuration files: what their tables mean for a run.
Main exports:
  ConfigFile.TraceSection, ConfigFile.TraceSection.toConfig, ConfigFile.ofTable,
  ConfigFile.parse, ConfigFile.decode
-/
import AccessTrace.Failure
import AccessTrace.Parameter.Texts
import AccessTrace.Quotas
import AccessTrace.Toml.Canonical
import AccessTrace.Toml.Parser
import AccessTrace.Toml.Printer

namespace AccessTrace.ConfigFile

open AccessTrace.Text AccessTrace.Toml

/-!
A configuration file has a table `trace` with the parameters and perhaps a
table `output` with the targets.  Either can be an array as well, of its values
in a fixed order.  Keys that are not known are passed over.

The form of a file is settled before its numbers are looked at.  A number may
be given as an integer or as a text, which is read as on the command line; a
ratio may also be a float.  Any other value is shown in the complaint as it
would be written in the file.  For this each number is taken in its canonical
form, and it is a matter of the file's form that it has one.  The address space and the count have to be
given; without them the complaint shows an empty text.
-/

/-- Why a text is not that of a configuration file. -/
inductive Fault where
  /-- The line with this number is wrong. -/
  | line (number : Nat)
  /-- The value of this key is missing, or of another sort than it should be. -/
  | shape (key : String)
deriving DecidableEq, Repr

/-- The message about a text of the wrong form. -/
def Fault.message : Fault → String
  | .line number => "TOML parse error at line " ++ String.ofList (Numeral.ofNat number)
  | .shape key => "TOML parse error at " ++ key

/-- The table `trace`, before its numbers are looked at.  They are in their
canonical forms. -/
structure TraceSection where
  maxAddress : Option Value := none
  instructionCount : Option Value := none
  writeRatio : Option Value := none
  writeSequentialFraction : Option Value := none
  readSequentialFraction : Option Value := none
  blockSize : Option Value := none
  sequentialBlockCount : Option Value := none
  alignToBlockSize : Bool := false
  seed : Option UInt64 := none

/-- A number, in its canonical form. -/
def takeNumber (field : Field) : Option Value → Except Fault (Option Value)
  | none => .ok none
  | some value =>
    match value.canonical? with
    | some value => .ok (some value)
    | none => .error (.shape field.name)

/-- A truth value; without one, false. -/
def readFlag (key : String) : Option Value → Except Fault Bool
  | none => .ok false
  | some (.boolean value) => .ok value
  | some _ => .error (.shape key)

/-- A seed, which is not negative. -/
def readSeed (key : String) : Option Value → Except Fault (Option UInt64)
  | none => .ok none
  | some (.integer value) =>
    if value < 0 then .error (.shape key) else .ok (some (UInt64.ofNat value.toInt.toNat))
  | some _ => .error (.shape key)

/-- A path. -/
def readPath (key : String) : Option Value → Except Fault (Option String)
  | none => .ok none
  | some (.string text) => .ok (some text)
  | some _ => .error (.shape key)

/-- The parameters in a table by their keys. -/
def traceOfEntries (entries : Table) : Except Fault TraceSection := do
  let number (field : Field) := takeNumber field (entries.lookup field.name)
  return {
    maxAddress := ← number .maxAddress
    instructionCount := ← number .instructionCount
    writeRatio := ← number .writeRatio
    writeSequentialFraction := ← number .writeSequentialFraction
    readSequentialFraction := ← number .readSequentialFraction
    blockSize := ← number .blockSize
    sequentialBlockCount := ← number .sequentialBlockCount
    alignToBlockSize := ← readFlag "align_to_block_size" (entries.lookup "align_to_block_size")
    seed := ← readSeed "seed" (entries.lookup "seed") }

/-- The parameters in an array by their places.  The last two may be missing,
and what comes after them is passed over. -/
def traceOfValues : List Value → Except Fault TraceSection
  | maxAddress :: instructionCount :: writeRatio :: writeSequentialFraction ::
      readSequentialFraction :: blockSize :: sequentialBlockCount :: rest => do
    return {
      maxAddress := ← takeNumber .maxAddress (some maxAddress)
      instructionCount := ← takeNumber .instructionCount (some instructionCount)
      writeRatio := ← takeNumber .writeRatio (some writeRatio)
      writeSequentialFraction :=
        ← takeNumber .writeSequentialFraction (some writeSequentialFraction)
      readSequentialFraction :=
        ← takeNumber .readSequentialFraction (some readSequentialFraction)
      blockSize := ← takeNumber .blockSize (some blockSize)
      sequentialBlockCount := ← takeNumber .sequentialBlockCount (some sequentialBlockCount)
      alignToBlockSize := ← readFlag "align_to_block_size" rest[0]?
      seed := ← readSeed "seed" rest[1]? }
  | _ => .error (.shape "trace")

/-- The table `trace`.  A date or a time has none of its entries. -/
def readTrace : Option Value → Except Fault TraceSection
  | some (.table entries) => traceOfEntries entries
  | some (.datetime _) => traceOfEntries []
  | some (.array values) => traceOfValues values
  | _ => .error (.shape "trace")

/-- The targets, by the values that were given for them. -/
def outputOf (traceFile jsonReport : Option Value) : Except Fault OutputTargets := do
  return {
    traceFile := (← readPath "trace_file" traceFile).getD defaultTraceFile
    jsonReport := ← readPath "json_report" jsonReport }

/-- The table `output`, if there is one.  A date or a time has none of its
entries. -/
def readOutput : Option Value → Except Fault OutputTargets
  | none | some (.datetime _) => .ok {}
  | some (.table entries) => outputOf (entries.lookup "trace_file") (entries.lookup "json_report")
  | some (.array values) => outputOf values[0]? values[1]?
  | some _ => .error (.shape "output")

/-- A value as a complaint shows it: a text as it is, any other value as it
would be written. -/
def shown : Value → String
  | .string text => text
  | value => value.print

/-- A number that has to be positive, from an integer or from a text that
another reader reads. -/
def readPositive (field : Field) (readText : String → Except ParameterError UInt64) :
    Option Value → Except ParameterError UInt64
  | none => .error (.notANumber field "")
  | some (.integer value) =>
    Parameter.positive field (String.ofList (Numeral.ofInt value.toInt)) value.toInt
  | some (.string text) => readText text
  | some value => .error (.notANumber field (shown value))

/-- A size. -/
def readSize (field : Field) : Option Value → Except ParameterError UInt64 :=
  readPositive field (Parameter.readSize field)

/-- A count. -/
def readCount (field : Field) : Option Value → Except ParameterError UInt64 :=
  readPositive field (Parameter.readCount field)

/-- A ratio. -/
def readRatio (field : Field) : Value → Except ParameterError Binary64
  | .integer value => .ok (.ofInt value.toInt)
  | .string text => Parameter.readPercent field text
  | .float value =>
    if value.isFinite then .ok value else .error (.notANumber field (shown (.float value)))
  | value => .error (.notANumber field (shown value))

/-- A parameter that may be missing. -/
def orDefault {α β : Type} (given : Option β) (default : α) (read : β → Except ParameterError α) :
    Except ParameterError α :=
  match given with
  | none => .ok default
  | some value => read value

/-- The parameters of a run.  Sizes and counts are looked at before ratios. -/
def TraceSection.toConfig (given : TraceSection) : Except ParameterError Config := do
  let maxAddress ← readSize .maxAddress given.maxAddress
  let instructionCount ← readCount .instructionCount given.instructionCount
  let base : Config := { maxAddress, instructionCount }
  let blockSize ← orDefault given.blockSize base.blockSize
    fun value => readSize .blockSize (some value)
  let sequentialBlockCount ← orDefault given.sequentialBlockCount base.sequentialBlockCount
    fun value => readCount .sequentialBlockCount (some value)
  let writeRatio ← orDefault given.writeRatio base.writeRatio (readRatio .writeRatio)
  let writeSequentialFraction ← orDefault given.writeSequentialFraction
    base.writeSequentialFraction (readRatio .writeSequentialFraction)
  let readSequentialFraction ← orDefault given.readSequentialFraction
    base.readSequentialFraction (readRatio .readSequentialFraction)
  return { base with
    blockSize, sequentialBlockCount, writeRatio, writeSequentialFraction, readSequentialFraction
    alignToBlockSize := given.alignToBlockSize
    seed := given.seed }

/-- The step in which the form of a file is settled. -/
def formStep : String := "Failed to parse TOML configuration"

/-- The tables of a file, before their numbers are looked at. -/
def readSections (table : Table) : Except Fault (TraceSection × OutputTargets) := do
  let trace ← readTrace (table.lookup "trace")
  let output ← readOutput (table.lookup "output")
  return (trace, output)

/-- The configuration that the table of a file stands for. -/
def ofTable (table : Table) : Except Failure RunConfig :=
  match readSections table with
  | .error fault => .error { steps := [formStep], cause := .configText fault.message }
  | .ok (trace, output) =>
    match trace.toConfig with
    | .error error => .error { cause := .parameter error }
    | .ok trace => .ok { trace, output }

/-- The configuration that the text of a file stands for. -/
def parse (text : String) : Except Failure RunConfig :=
  match Toml.parse text with
  | .error line => .error { steps := [formStep], cause := .configText (Fault.line line).message }
  | .ok table => ofTable table

/-- The configuration in the file at a path, from what reading it gave. -/
def decode (path : String) (content : Except ReadFailure ByteArray) : Except Failure RunConfig :=
  match content with
  | .error failure =>
    .error { steps := ["Failed to read config file: " ++ path], cause := .io failure.error }
  | .ok bytes =>
    match String.fromUTF8? bytes with
    | none => .error { steps := ["Failed to read config file: " ++ path], cause := .io .notText }
    | some text => Failure.during ("Failed to parse config file: " ++ path) (parse text)

end AccessTrace.ConfigFile
