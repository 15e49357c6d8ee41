/-
Module: AccessTrace.Interchange.Decoding
Purpose: The values of a run read from JSON.
Main exports:
  Config.ofJsonBy, Config.ofJson, Quotas.ofJson, ClassCounts.ofJson, RunReport.ofJsonBy,
  RunReport.ofJson
-/
import AccessTrace.Json.Decoder
import AccessTrace.Parameter.Error
import AccessTrace.RunReport

namespace AccessTrace

open Json (Decoder Fault Fields NumberText)
open Json.Fields (required withDefault optional)

/-!
Fields are named and ordered as they are written.  Parameters that a run can
do without have the same defaults here as everywhere else.

What has reals in it can be read with any way of making a real of the text of a
number.  Without mention of one, `NumberText.real` is meant.
-/

/-- A kind, by its word. -/
def Kind.ofJson : Decoder Kind :=
  Json.choice (([.read, .write] : List Kind).map fun kind => (kind.name, kind))

/-- A record of a trace. -/
def Record.ofJson : Decoder Record :=
  Fields.decode (Record.mk <$> required "kind" Kind.ofJson <*> required "address" Json.word)

/-- The parameters that a configuration takes where none are given. -/
def Config.defaults : Config where
  maxAddress := 0
  instructionCount := 0

/-- The fields of the parameters of a run. -/
def Config.fields (read : NumberText → Except Fault Binary64) : Fields Config :=
  Config.mk
    <$> required Field.maxAddress.name Json.word
    <*> required Field.instructionCount.name Json.word
    <*> withDefault Field.writeRatio.name (Json.realBy read) Config.defaults.writeRatio
    <*> withDefault Field.writeSequentialFraction.name (Json.realBy read)
      Config.defaults.writeSequentialFraction
    <*> withDefault Field.readSequentialFraction.name (Json.realBy read)
      Config.defaults.readSequentialFraction
    <*> withDefault Field.blockSize.name Json.word Config.defaults.blockSize
    <*> withDefault Field.sequentialBlockCount.name Json.word
      Config.defaults.sequentialBlockCount
    <*> withDefault "align_to_block_size" Json.boolean Config.defaults.alignToBlockSize
    <*> withDefault "seed" (Json.nullable Json.word) Config.defaults.seed

/-- The parameters of a run, by what makes reals of the texts of numbers. -/
def Config.ofJsonBy (read : NumberText → Except Fault Binary64) : Decoder Config :=
  (Config.fields read).decode

/-- The parameters of a run. -/
def Config.ofJson : Decoder Config :=
  Config.ofJsonBy NumberText.real

/-- The targets of a run. -/
def OutputTargets.ofJson : Decoder OutputTargets :=
  Fields.decode (OutputTargets.mk
    <$> withDefault "trace_file" Json.string defaultTraceFile
    <*> withDefault "json_report" (Json.nullable Json.string) none)

/-- All that a run is asked to do. -/
def RunConfig.ofJson : Decoder RunConfig :=
  Fields.decode (RunConfig.mk
    <$> required "trace" Config.ofJson
    <*> withDefault "output" OutputTargets.ofJson {})

/-- The percentages that follow from the parameters, by what makes reals of the
texts of numbers. -/
def DerivedRatios.ofJsonBy (read : NumberText → Except Fault Binary64) : Decoder DerivedRatios :=
  Fields.decode (DerivedRatios.mk
    <$> required "read_percent" (Json.realBy read)
    <*> required "read_random_percent" (Json.realBy read)
    <*> required "write_random_percent" (Json.realBy read))

/-- The percentages that follow from the parameters. -/
def DerivedRatios.ofJson : Decoder DerivedRatios :=
  DerivedRatios.ofJsonBy NumberText.real

/-- The quotas of a plan. -/
def Quotas.ofJson : Decoder Quotas :=
  Fields.decode (Quotas.mk
    <$> required "sequential_write" Json.signed
    <*> required "sequential_read" Json.signed
    <*> required "random_write" Json.signed
    <*> required "random_read" Json.signed)

/-- The accesses that a run has made. -/
def ClassCounts.ofJson : Decoder ClassCounts :=
  Fields.decode (ClassCounts.mk
    <$> required "sequential_write" Json.word
    <*> required "sequential_read" Json.word
    <*> required "random_write" Json.word
    <*> required "random_read" Json.word)

/-- Plan and result. -/
def Report.ofJson : Decoder Report :=
  Fields.decode (Report.mk
    <$> required "planned" Quotas.ofJson
    <*> required "emitted" ClassCounts.ofJson)

/-- The report on a run, by what makes reals of the texts of numbers. -/
def RunReport.ofJsonBy (read : NumberText → Except Fault Binary64) : Decoder RunReport :=
  Fields.decode (RunReport.mk
    <$> required "tool" Json.string
    <*> required "version" Json.string
    <*> required "generated_at" Json.string
    <*> optional "trace_file" Json.string
    <*> required "config" (Config.ofJsonBy read)
    <*> required "derived" (DerivedRatios.ofJsonBy read)
    <*> required "planned" Quotas.ofJson
    <*> required "emitted" ClassCounts.ofJson
    <*> required "total_records" Json.word)

/-- The report on a run. -/
def RunReport.ofJson : Decoder RunReport :=
  RunReport.ofJsonBy NumberText.real

end AccessTrace
