/-
Module: AccessTrace.Program.Run
Purpose: A run from its arguments to its exit code.
Main exports:
  Program.configure, Program.run, Program.start, Completion
-/
import AccessTrace.ConfigFile
import AccessTrace.Generator
import AccessTrace.Interchange.Encoding
import AccessTrace.Options.Help
import AccessTrace.Options.Overrides
import AccessTrace.Program.Host
import AccessTrace.Source.Uniform
import AccessTrace.Summary
import AccessTrace.TraceFile

namespace AccessTrace

/-- How a run ends. -/
inductive Completion where
  | done
  | failed (failure : Failure)
  /-- The arguments could not be used. -/
  | misused (stop : Stop)
deriving DecidableEq

namespace Completion

/-- The number that tells how a run ended. -/
def exitCode : Completion → Nat
  | .done => 0
  | .failed _ => 1
  | .misused _ => 2

/-- What is said about a run that did not end well. -/
def complaint? : Completion → Option String
  | .done => none
  | .failed failure => some failure.report
  | .misused stop => some stop.message

end Completion

namespace Program

/-!
A run has four stages: it settles its configuration, plans and generates the
trace, writes the trace, and reports.  Nothing is written before the trace is
complete, and a run that only plans writes nothing at all.  A run that is to
check its trace reads it back before it reports.  The report in JSON is the
last thing that is written, so a report that cannot be written leaves the
trace and the summary as they are.
-/

variable {m : Type → Type} [Monad m] [Host m]

/-- The step in which parameters are looked at before anything is drawn. -/
def parameterStep : String := "Invalid parameters"

/-- The failure that a parameter is the cause of. -/
def failureOf (error : ParameterError) : Failure := { cause := .parameter error }

/-- The configuration of a run.  What the options give goes on top of the file
they name, or on top of the defaults. -/
def configure (options : Options) : m (Except Failure RunConfig) :=
  match options.config with
  | some path => do
    let content ← Host.read path
    return do
      let base ← ConfigFile.decode path content
      (options.merge base).mapError failureOf
  | none =>
    return Failure.during parameterStep do
      let trace ← options.toConfig.mapError failureOf
      return { trace, output := options.overrideOutput {} }

/-- Writes a file; a refusal names the path. -/
def writeFile (path : String) (chunks : List ByteArray) : m (Except Failure Unit) := do
  let result ← Host.write path chunks
  return result.mapError fun error => { cause := .sink path error }

/-- The source of addresses that a configuration calls for. -/
def sourceOf (config : Config) : m Uniform :=
  match config.seed with
  | some seed => return .ofSeed seed
  | none => do return .ofSeed (← Host.freshSeed)

/-- The first lines of every run. -/
def banner : List String :=
  [toolName ++ " v" ++ toolVersion, "Synthetic memory/storage access trace generator", ""]

/-- What is printed about the configuration. -/
def configurationLines (run : RunConfig) : List String :=
  Summary.configuration run.trace run.output ++ [""] ++ Summary.derivedRatios run.trace

/-- What is printed about a plan that is not carried out. -/
def planLines (planned : Quotas) : List String :=
  ["", "Planned quotas:"] ++ Summary.indented (Summary.planned planned) ++
    ["", "Dry run mode - configuration validated successfully"]

/-- Prints lines. -/
def printLines (lines : List String) : m Unit :=
  Host.print (Summary.block lines)

/-- Plans a run without carrying it out. -/
def planOnly (config : Config) : ExceptT Failure m Unit := do
  let planned ← Failure.during parameterStep (config.plan.mapError failureOf)
  printLines (planLines planned)

/-- Carries a run out. -/
def produce (run : RunConfig) (verbose : Bool) : ExceptT Failure m Unit := do
  let source ← sourceOf run.trace
  let trace ← Failure.during "Trace generation failed"
    ((generate run.trace source).1.mapError failureOf)
  let path := run.output.traceFile
  let written ← writeFile path (TraceFile.chunks trace.records)
  Failure.during "Failed to write trace file" written
  if verbose then
    let content ← Host.read path
    Failure.during "Trace file verification failed" (TraceFile.verify path trace.report content)
  printLines ([""] ++ Summary.report trace.report (some path))
  match run.output.jsonReport with
  | none => pure ()
  | some reportPath => do
    let report := RunReport.ofRun run.trace trace.report (some path) (← Host.now)
    let written ← writeFile reportPath [(report.text .pretty).toUTF8]
    Failure.during "Failed to write JSON report" written

/-- A run with the given options. -/
def run (options : Options) : ExceptT Failure m Unit := do
  printLines banner
  let configured ← configure options
  let run ← configured
  printLines (configurationLines run)
  if options.dryRun then planOnly run.trace else produce run options.verbose

/-- A run with the given arguments. -/
def start (arguments : List String) : m Completion :=
  match Options.ofArguments arguments with
  | .error .help => do
    Host.print helpText
    return .done
  | .error .version => do
    Host.print versionText
    return .done
  | .error stop => return .misused stop
  | .ok options => do
    match ← (run options).run with
    | .ok () => return .done
    | .error failure => return .failed failure

end Program
end AccessTrace
