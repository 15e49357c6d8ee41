/-
Module: AccessTrace.Interchange.Encoding
Purpose: The values of a run in JSON.
Main exports:
  Config.toJson, Quotas.toJson, ClassCounts.toJson, RunReport.toJson, RunReport.text
-/
import AccessTrace.Json.Printer
import AccessTrace.Parameter.Error
import AccessTrace.RunReport

namespace AccessTrace

open Json (Value)

/-!
A record is an object with its fields in a fixed order.  A seed that was not
given and a trace file that was not named are left out; a report file that was
not named is written as nothing.
-/

/-- A member for a value that is left out where there is none. -/
def memberIfAny {α : Type} (key : String) (write : α → Value) (value : Option α) :
    List (String × Value) :=
  value.toList.map fun value => (key, write value)

/-- A kind is its word. -/
def Kind.toJson (kind : Kind) : Value :=
  .string kind.name

/-- A record of a trace. -/
def Record.toJson (record : Record) : Value :=
  .object [("kind", record.kind.toJson), ("address", .ofWord record.address)]

/-- The parameters of a run. -/
def Config.toJson (config : Config) : Value :=
  .object ([
    (Field.maxAddress.name, .ofWord config.maxAddress),
    (Field.instructionCount.name, .ofWord config.instructionCount),
    (Field.writeRatio.name, .real config.writeRatio),
    (Field.writeSequentialFraction.name, .real config.writeSequentialFraction),
    (Field.readSequentialFraction.name, .real config.readSequentialFraction),
    (Field.blockSize.name, .ofWord config.blockSize),
    (Field.sequentialBlockCount.name, .ofWord config.sequentialBlockCount),
    ("align_to_block_size", .boolean config.alignToBlockSize)] ++
    memberIfAny "seed" Value.ofWord config.seed)

/-- The targets of a run. -/
def OutputTargets.toJson (output : OutputTargets) : Value :=
  .object [
    ("trace_file", .string output.traceFile),
    ("json_report", .ofOption .string output.jsonReport)]

/-- All that a run is asked to do. -/
def RunConfig.toJson (run : RunConfig) : Value :=
  .object [("trace", run.trace.toJson), ("output", run.output.toJson)]

/-- The percentages that follow from the parameters. -/
def DerivedRatios.toJson (derived : DerivedRatios) : Value :=
  .object [
    ("read_percent", .real derived.readPercent),
    ("read_random_percent", .real derived.readRandomPercent),
    ("write_random_percent", .real derived.writeRandomPercent)]

/-- The quotas of a plan. -/
def Quotas.toJson (quotas : Quotas) : Value :=
  .object [
    ("sequential_write", .integer quotas.sequentialWrite.toInt),
    ("sequential_read", .integer quotas.sequentialRead.toInt),
    ("random_write", .integer quotas.randomWrite.toInt),
    ("random_read", .integer quotas.randomRead.toInt)]

/-- The accesses that a run has made. -/
def ClassCounts.toJson (counts : ClassCounts) : Value :=
  .object [
    ("sequential_write", .ofWord counts.sequentialWrite),
    ("sequential_read", .ofWord counts.sequentialRead),
    ("random_write", .ofWord counts.randomWrite),
    ("random_read", .ofWord counts.randomRead)]

/-- Plan and result. -/
def Report.toJson (report : Report) : Value :=
  .object [("planned", report.planned.toJson), ("emitted", report.emitted.toJson)]

namespace RunReport

/-- The report on a run. -/
def toJson (report : RunReport) : Value :=
  .object ([
    ("tool", .string report.tool),
    ("version", .string report.version),
    ("generated_at", .string report.generatedAt)] ++
    memberIfAny "trace_file" .string report.traceFile ++ [
    ("config", report.config.toJson),
    ("derived", report.derived.toJson),
    ("planned", report.planned.toJson),
    ("emitted", report.emitted.toJson),
    ("total_records", .ofWord report.totalRecords)])

/-- The content of a report file, which ends in a line feed. -/
def text (report : RunReport) (form : Json.Form) : String :=
  report.toJson.print form ++ "\n"

end RunReport
end AccessTrace
