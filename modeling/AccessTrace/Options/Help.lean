/-
Module: AccessTrace.Options.Help
Purpose: The explanation of the options, and what is said about wrong ones.
Main exports:
  helpText, versionText, Stop.message
-/
import AccessTrace.Options.Arguments
import AccessTrace.RunReport

namespace AccessTrace

/-- What a setting is for. -/
def Setting.purpose : Setting → String
  | .output => "Trace file to write (default: user_trace.trace)"
  | .jsonReport => "Also write the generation report as JSON"
  | .maxAddress => "Max address space, exclusive (e.g., 1048576, 64k, 1G)"
  | .instructions => "Expected instruction count"
  | .blockSize => "Block size (e.g., 64, 4k)"
  | .sequentialBlocks => "Number of blocks per sequential burst"
  | .writePercent => "Write instruction ratio (0-100, default 50)"
  | .readSequentialPercent => "Read sequential instruction ratio (0-100, default 50)"
  | .writeSequentialPercent => "Write sequential instruction ratio (0-100, default 50)"
  | .seed => "Seed the address generator for a reproducible trace"
  | .config => "TOML configuration file"

/-- The word that stands for a setting's value. -/
def Setting.valueName (setting : Setting) : String :=
  match setting with
  | .output | .jsonReport => "PATH"
  | _ => setting.long.map fun c => if c = '-' then '_' else c.toUpper

/-- What a switch is for. -/
def Switch.purpose : Switch → String
  | .align => "Align burst starts and random writes to the block size"
  | .dryRun => "Dry run - validate configuration and show planned quotas without writing"
  | .verbose => "Enable debug logging and read the written trace back to check it"
  | .help => "Print help"
  | .version => "Print version"

namespace OptionName

/-- What an option is for. -/
def purpose : OptionName → String
  | .setting s => s.purpose
  | .switch w => w.purpose

/-- An option with its names and the word for its value. -/
def usage (name : OptionName) : String :=
  let short := match name.short? with
    | some letter => String.ofList ['-', letter] ++ ", "
    | none => "    "
  let value := match name with
    | .setting s => " <" ++ s.valueName ++ ">"
    | .switch _ => ""
  short ++ "--" ++ name.long ++ value

/-- The explanation of an option. -/
def explanation (name : OptionName) : String :=
  "  " ++ name.usage ++ "\n          " ++ name.purpose ++ "\n"

end OptionName

/-- How the program is called. -/
def usageLine : String :=
  "Usage: " ++ toolName ++ " [OPTIONS]"

/-- The explanation of all options. -/
def helpText : String :=
  "Synthetic memory/storage access trace generator for cache and storage simulators\n\n" ++
    usageLine ++ "\n\nOptions:\n" ++ String.join (OptionName.all.map OptionName.explanation)

/-- The name and the version of the program. -/
def versionText : String :=
  toolName ++ " " ++ toolVersion ++ "\n"

/-- What is wrong with the arguments. -/
def Stop.reason : Stop → String
  | .unknown argument => "unexpected argument '" ++ argument ++ "' found"
  | .missingValue setting =>
    "a value is required for '" ++ (OptionName.setting setting).usage.trimAscii ++
      "' but none was supplied"
  | .emptyPath setting =>
    "a value is required for '" ++ (OptionName.setting setting).usage.trimAscii ++
      "' but none was supplied"
  | .badSeed value => "invalid value '" ++ value ++ "' for '--seed <SEED>'"
  | .repeated name =>
    "the argument '" ++ name.usage.trimAscii ++ "' cannot be used multiple times"
  | .unwantedValue switch value =>
    "unexpected value '" ++ value ++ "' for '--" ++ switch.long ++ "' found; no more were expected"
  | .help | .version => ""

/-- The message about arguments that cannot be used. -/
def Stop.message (stop : Stop) : String :=
  "error: " ++ stop.reason ++ "\n\n" ++ usageLine ++ "\n\nFor more information, try '--help'."

end AccessTrace
