/-
Module: AccessTrace.TraceFile
Purpose: Traces as files: writing them, reading them back, and holding them against a report.
Main exports:
  TraceFile.chunks, TraceFile.writeRecords, TraceFile.lines, TraceFile.readRecords,
  TraceFile.decode, TraceFile.verify
-/
import AccessTrace.Failure
import AccessTrace.Quotas
import AccessTrace.Storage.Buffered

namespace AccessTrace.TraceFile

open AccessTrace.Text

/-!
A trace file holds one line for each record, and each line ends in a line
feed.  A reader takes more than a writer gives: a carriage return before the
line feed, lines of blanks only, and a last line without an end.  Lines are
counted from one, blank ones included, and reading stops at the first that is
no record.
-/

/-- The bytes of a record's line, with the line feed. -/
def chunk (record : Record) : ByteArray :=
  (String.ofList (record.line ++ ['\n'])).toUTF8

/-- The lines of a trace as they are written. -/
def chunks (records : Array Record) : List ByteArray :=
  records.toList.map chunk

/-- Writes records to a sink through a buffer. -/
def writeRecords (capacity : Nat) (sink : Sink) (records : Array Record) :
    Except IoError Unit × Sink :=
  BufferedWriter.transfer capacity sink (chunks records)

/-- A line without the carriage return at its end, given and returned from the
end. -/
def dropReturn : List UInt8 → List UInt8
  | 13 :: reversed => reversed
  | reversed => reversed

/-- The lines of a content whose first lines are done, and whose next line has
begun with `reversed`. -/
def linesFrom (done : Array (List UInt8)) (reversed : List UInt8) :
    List UInt8 → Array (List UInt8)
  | [] => if reversed.isEmpty then done else done.push reversed.reverse
  | 10 :: bytes => linesFrom (done.push (dropReturn reversed).reverse) [] bytes
  | byte :: bytes => linesFrom done (byte :: reversed) bytes

/-- The lines of a content, without their ends. -/
def lines (content : List UInt8) : List (List UInt8) :=
  (linesFrom #[] [] content).toList

/-- Why a content is not that of a trace. -/
inductive LineFault where
  | notText
  | malformed (number : Nat) (error : MalformedLine)
deriving DecidableEq, Repr

/-- The text of a line. -/
def lineText? (line : List UInt8) : Option String :=
  String.fromUTF8? line.toByteArray

/-- Reads lines after `done`, the first of which has the given number. -/
def readFrom (number : Nat) (done : Array Record) :
    List (List UInt8) → Except LineFault (Array Record)
  | [] => .ok done
  | line :: rest =>
    match lineText? line with
    | none => .error .notText
    | some text =>
      if isBlankText text.toList then readFrom (number + 1) done rest
      else match Record.parse text with
        | .error error => .error (.malformed number error)
        | .ok record => readFrom (number + 1) (done.push record) rest

/-- The records in the content of a file. -/
def readRecords (content : List UInt8) : Except LineFault (Array Record) :=
  readFrom 1 #[] (lines content)

/-- The fault of a line as a failure to read the file at a path. -/
def LineFault.failure (path : String) : LineFault → Failure
  | .notText => { steps := ["Failed to read " ++ path], cause := .io .notText }
  | .malformed number error =>
    { steps := [path ++ ":" ++ String.ofList (Numeral.ofNat number)]
      cause := .malformedLine error }

/-- The records of the file at a path, from what reading it gave. -/
def decode (path : String) : Except ReadFailure ByteArray → Except Failure (Array Record)
  | .error (.opening error) =>
    .error { steps := ["Failed to open trace file: " ++ path], cause := .io error }
  | .error (.reading error) =>
    .error { steps := ["Failed to read " ++ path], cause := .io error }
  | .ok content =>
    match readRecords content.toList with
    | .ok records => .ok records
    | .error fault => .error (fault.failure path)

/-- Holds records against a report: their number first, then their kinds. -/
def compare (path : String) (report : Report) (records : Array Record) : Except Failure Unit :=
  let reads := Report.countKind records.toList .read
  let writes := Report.countKind records.toList .write
  if records.size ≠ report.totalRecords.toNat then
    .error { cause := .recordCount path records.size report.totalRecords.toNat }
  else if reads ≠ report.emitted.reads.toNat ∨ writes ≠ report.emitted.writes.toNat then
    .error { cause := .kindSplit path reads writes
              report.emitted.reads.toNat report.emitted.writes.toNat }
  else .ok ()

/-- Holds a file against a report, from what reading the file gave. -/
def verify (path : String) (report : Report) (content : Except ReadFailure ByteArray) :
    Except Failure Unit := do
  compare path report (← decode path content)

end AccessTrace.TraceFile
