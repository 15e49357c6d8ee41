/-
Module: AccessTrace.Options.Basic
Purpose: The options of the command line, by name, and what they were given.
Main exports:
  Setting, Switch, OptionName, Options
-/
namespace AccessTrace

/-!
An option is either a setting, which takes a value, or a switch, which does
not.  Values are kept as the texts they were given as, except for the seed.
Numbers are read later, where a bad one can be reported by the name of its
parameter.
-/

/-- The options that take a value. -/
inductive Setting where
  | output
  | jsonReport
  | maxAddress
  | instructions
  | blockSize
  | sequentialBlocks
  | writePercent
  | readSequentialPercent
  | writeSequentialPercent
  | seed
  | config
deriving DecidableEq, Repr

/-- The options that take none. -/
inductive Switch where
  | align
  | dryRun
  | verbose
  | help
  | version
deriving DecidableEq, Repr

/-- An option of either sort. -/
inductive OptionName where
  | setting (setting : Setting)
  | switch (switch : Switch)
deriving DecidableEq, Repr

namespace Setting

/-- The name behind two dashes. -/
def long : Setting → String
  | .output => "output"
  | .jsonReport => "json-report"
  | .maxAddress => "max-address"
  | .instructions => "instructions"
  | .blockSize => "block-size"
  | .sequentialBlocks => "sequential-blocks"
  | .writePercent => "write-percent"
  | .readSequentialPercent => "read-sequential-percent"
  | .writeSequentialPercent => "write-sequential-percent"
  | .seed => "seed"
  | .config => "config"

/-- The letter behind one dash. -/
def short? : Setting → Option Char
  | .output => some 'o'
  | .maxAddress => some 'a'
  | .instructions => some 'n'
  | .blockSize => some 'b'
  | .config => some 'c'
  | _ => none

/-- Whether an argument of a dash and a number can be the value. -/
def takesNegative : Setting → Bool
  | .maxAddress | .instructions | .blockSize | .sequentialBlocks
  | .writePercent | .readSequentialPercent | .writeSequentialPercent => true
  | .output | .jsonReport | .seed | .config => false

/-- Whether the value is a path, which cannot be empty. -/
def isPath : Setting → Bool
  | .output | .jsonReport | .config => true
  | _ => false

end Setting

namespace Switch

/-- The name behind two dashes. -/
def long : Switch → String
  | .align => "align"
  | .dryRun => "dry-run"
  | .verbose => "verbose"
  | .help => "help"
  | .version => "version"

/-- The letter behind one dash. -/
def short? : Switch → Option Char
  | .verbose => some 'v'
  | .help => some 'h'
  | .version => some 'V'
  | .align | .dryRun => none

end Switch

namespace OptionName

/-- All options, in the order in which they are explained. -/
def all : List OptionName :=
  [.setting .output, .setting .jsonReport, .setting .maxAddress, .setting .instructions,
    .setting .blockSize, .setting .sequentialBlocks, .switch .align, .setting .writePercent,
    .setting .readSequentialPercent, .setting .writeSequentialPercent, .setting .seed,
    .setting .config, .switch .dryRun, .switch .verbose, .switch .help, .switch .version]

/-- The name behind two dashes. -/
def long : OptionName → String
  | .setting s => s.long
  | .switch w => w.long

/-- The letter behind one dash. -/
def short? : OptionName → Option Char
  | .setting s => s.short?
  | .switch w => w.short?

/-- The option with a name. -/
def ofLong? (name : String) : Option OptionName :=
  all.find? (·.long == name)

/-- The option with a letter. -/
def ofShort? (letter : Char) : Option OptionName :=
  all.find? (·.short? == some letter)

end OptionName

/-- What the options were given. -/
structure Options where
  output : Option String := none
  jsonReport : Option String := none
  maxAddress : Option String := none
  instructions : Option String := none
  blockSize : Option String := none
  sequentialBlocks : Option String := none
  align : Bool := false
  writePercent : Option String := none
  readSequentialPercent : Option String := none
  writeSequentialPercent : Option String := none
  seed : Option UInt64 := none
  config : Option String := none
  dryRun : Bool := false
  verbose : Bool := false
deriving DecidableEq, Repr

end AccessTrace
