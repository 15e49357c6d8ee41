/-
Module: AccessTrace.Options.Overrides
Purpose: Options on top of parameters: what was given replaces what was there.
Main exports:
  Options.override, Options.overrideOutput, Options.toConfig, Options.merge
-/
import AccessTrace.Options.Basic
import AccessTrace.Parameter.Texts
import AccessTrace.Config.Basic

namespace AccessTrace

/-!
The texts are read one after the other.  If one of them cannot be read, the
ones before it have been applied and everything after it is left alone.
-/

/-- A change of parameters that can fail halfway. -/
abbrev ConfigEdit := ExceptT ParameterError (StateM Config)

namespace ConfigEdit

/-- Reads a text, if it was given, and puts its value among the parameters. -/
def replace {α : Type} (given : Option String) (read : String → Except ParameterError α)
    (change : α → Config → Config) : ConfigEdit Unit :=
  match given with
  | none => pure ()
  | some text => do
    let value ← read text
    modify (change value)

end ConfigEdit

namespace Options

open ConfigEdit (replace)

/-- A percentage as a fraction. -/
def readFraction (field : Field) (text : String) : Except ParameterError Binary64 :=
  (Parameter.readPercent field text).map (· / .hundred)

/-- Puts all that was given among the parameters. -/
def edit (options : Options) : ConfigEdit Unit := do
  replace options.maxAddress (Parameter.readSize .maxAddress)
    fun value config => { config with maxAddress := value }
  replace options.instructions (Parameter.readCount .instructionCount)
    fun value config => { config with instructionCount := value }
  replace options.blockSize (Parameter.readSize .blockSize)
    fun value config => { config with blockSize := value }
  replace options.sequentialBlocks (Parameter.readCount .sequentialBlockCount)
    fun value config => { config with sequentialBlockCount := value }
  replace options.writePercent (Parameter.readPercent .writeRatio)
    fun value config => { config with writeRatio := value }
  replace options.readSequentialPercent (readFraction .readSequentialFraction)
    fun value config => { config with readSequentialFraction := value }
  replace options.writeSequentialPercent (readFraction .writeSequentialFraction)
    fun value config => { config with writeSequentialFraction := value }
  modify fun config =>
    { config with
      alignToBlockSize := options.align || config.alignToBlockSize
      seed := options.seed <|> config.seed }

/-- The outcome of the change, and the parameters after it. -/
def override (options : Options) (config : Config) : Except ParameterError Unit × Config :=
  options.edit.run.run config

/-- The parameters after the change, if nothing was wrong with it. -/
def overrideAll (options : Options) (config : Config) : Except ParameterError Config :=
  match options.override config with
  | (.ok (), config) => .ok config
  | (.error error, _) => .error error

/-- The targets with those that were given in their places. -/
def overrideOutput (options : Options) (output : OutputTargets) : OutputTargets where
  traceFile := options.output.getD output.traceFile
  jsonReport := options.jsonReport <|> output.jsonReport

/-- The parameters from options alone.  The address space and the count have no
default; one that was not given is read as an empty text. -/
def toConfig (options : Options) : Except ParameterError Config := do
  let maxAddress ← Parameter.readSize .maxAddress (options.maxAddress.getD "")
  let instructionCount ← Parameter.readCount .instructionCount (options.instructions.getD "")
  options.overrideAll { maxAddress, instructionCount }

/-- A configuration from a file with the options on top of it. -/
def merge (options : Options) (base : RunConfig) : Except ParameterError RunConfig := do
  let trace ← options.overrideAll base.trace
  return { trace, output := options.overrideOutput base.output }

end Options
end AccessTrace
