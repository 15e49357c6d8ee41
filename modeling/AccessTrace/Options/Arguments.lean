/-
Module: AccessTrace.Options.Arguments
Purpose: The arguments of the command line, read into options.
Main exports:
  Stop, Options.ofArguments
-/
import AccessTrace.Options.Basic
import AccessTrace.Text.Numeral

namespace AccessTrace

open AccessTrace.Text

/-!
Arguments are read from left to right.  A setting whose value was not attached
to it waits for the next argument.  An argument with a dash in front is then
still an option of its own, except for a lone dash, and for a dash and a
number where the setting takes negative ones.

The value of a waiting setting is looked at only when the next known option
comes, or at the end.  An unknown argument or an unwanted value is therefore
reported before anything that is wrong with a value that stands in front of
it.  No argument stands for itself, so nothing can follow two lone dashes.
-/

/-- Why reading the arguments stops before its end: a fault, or a request that
is answered at once. -/
inductive Stop where
  | unknown (argument : String)
  | missingValue (setting : Setting)
  | emptyPath (setting : Setting)
  | badSeed (value : String)
  | repeated (name : OptionName)
  | unwantedValue (switch : Switch) (value : String)
  | help
  | version
deriving DecidableEq, Repr

namespace Options

/-- Whether a setting has its value. -/
def has (options : Options) : Setting → Bool
  | .output => options.output.isSome
  | .jsonReport => options.jsonReport.isSome
  | .maxAddress => options.maxAddress.isSome
  | .instructions => options.instructions.isSome
  | .blockSize => options.blockSize.isSome
  | .sequentialBlocks => options.sequentialBlocks.isSome
  | .writePercent => options.writePercent.isSome
  | .readSequentialPercent => options.readSequentialPercent.isSome
  | .writeSequentialPercent => options.writeSequentialPercent.isSome
  | .seed => options.seed.isSome
  | .config => options.config.isSome

/-- The seed that a text stands for. -/
def readSeed? (value : String) : Option UInt64 :=
  (Numeral.natural? value.toList).bind fun n =>
    if n < UInt64.size then some (UInt64.ofNat n) else none

/-- The options with another value for a setting. -/
def put (options : Options) (value : String) : Setting → Except Stop Options
  | .output => .ok { options with output := some value }
  | .jsonReport => .ok { options with jsonReport := some value }
  | .maxAddress => .ok { options with maxAddress := some value }
  | .instructions => .ok { options with instructions := some value }
  | .blockSize => .ok { options with blockSize := some value }
  | .sequentialBlocks => .ok { options with sequentialBlocks := some value }
  | .writePercent => .ok { options with writePercent := some value }
  | .readSequentialPercent => .ok { options with readSequentialPercent := some value }
  | .writeSequentialPercent => .ok { options with writeSequentialPercent := some value }
  | .config => .ok { options with config := some value }
  | .seed =>
    match readSeed? value with
    | some seed => .ok { options with seed := some seed }
    | none => .error (.badSeed value)

/-- Gives a setting its value, once. -/
def give (options : Options) (setting : Setting) (value : String) : Except Stop Options :=
  if options.has setting then .error (.repeated (.setting setting))
  else if setting.isPath && value.isEmpty then .error (.emptyPath setting)
  else options.put value setting

/-- Turns a switch on, once. -/
def turnOn (options : Options) : Switch → Except Stop Options
  | .align =>
    if options.align then .error (.repeated (.switch .align))
    else .ok { options with align := true }
  | .dryRun =>
    if options.dryRun then .error (.repeated (.switch .dryRun))
    else .ok { options with dryRun := true }
  | .verbose =>
    if options.verbose then .error (.repeated (.switch .verbose))
    else .ok { options with verbose := true }
  | .help => .error .help
  | .version => .error .version

end Options

/-- What has been read so far: the options, and the last setting that was not
attached to its value, with the value where it has come. -/
structure ArgumentState where
  options : Options := {}
  pending : Option (Setting × Option String) := none
deriving DecidableEq, Repr

namespace ArgumentState

/-- The options with the last setting's value among them. -/
def settle (state : ArgumentState) : Except Stop Options :=
  match state.pending with
  | none => .ok state.options
  | some (setting, none) => .error (.missingValue setting)
  | some (setting, some value) => state.options.give setting value

/-- Goes on with a setting and the value attached to it, if there is one. -/
def onSetting (state : ArgumentState) (setting : Setting) (attached : Option String) :
    Except Stop ArgumentState := do
  let options ← state.settle
  match attached with
  | none => return { options, pending := some (setting, none) }
  | some value => return { options := ← options.give setting value }

/-- Goes on with a switch. -/
def onSwitch (state : ArgumentState) (switch : Switch) : Except Stop ArgumentState := do
  let options ← state.settle
  return { options := ← options.turnOn switch }

/-- Goes on with an option by its name, and perhaps a value after an equals
sign.  An unknown name is reported without the value. -/
def onLong (state : ArgumentState) (text : List Char) : Except Stop ArgumentState :=
  let name := String.ofList (text.takeWhile (· != '='))
  let attached := match text.dropWhile (· != '=') with
    | [] => none
    | _ :: value => some (String.ofList value)
  match OptionName.ofLong? name, attached with
  | none, _ => .error (.unknown ("--" ++ name))
  | some (.setting setting), _ => state.onSetting setting attached
  | some (.switch switch), some value => .error (.unwantedValue switch value)
  | some (.switch switch), none => state.onSwitch switch

/-- The value behind the letter of a setting, perhaps after an equals sign. -/
def attachedTo : List Char → Option String
  | [] => none
  | '=' :: value => some (String.ofList value)
  | value => some (String.ofList value)

/-- Goes on with letters: switches, and at the end perhaps a setting.  Of
several letters, the first unknown one is reported. -/
def onShort (state : ArgumentState) : List Char → Except Stop ArgumentState
  | [] => .ok state
  | letter :: rest =>
    match OptionName.ofShort? letter with
    | none => .error (.unknown (String.ofList ['-', letter]))
    | some (.setting setting) => state.onSetting setting (attachedTo rest)
    | some (.switch switch) => do
      onShort (← state.onSwitch switch) rest

/-- Goes on with an argument that is a value or nothing. -/
def onPlain (state : ArgumentState) (argument : String) : Except Stop ArgumentState :=
  match state.pending with
  | some (setting, none) => .ok { state with pending := some (setting, some argument) }
  | _ => .error (.unknown argument)

/-- Whether a text after its first character has at most one point, one `e`
or `E` after the point, and digits otherwise.  Neither stands first, and the
letter does not stand last. -/
def isNumberFrom (first seenPoint seenExponent : Bool) : List Char → Bool
  | [] => true
  | c :: rest =>
    if c.isDigit then isNumberFrom false seenPoint seenExponent rest
    else if c = '.' then
      !seenPoint && !seenExponent && !first && isNumberFrom false true seenExponent rest
    else if c = 'e' || c = 'E' then
      !seenExponent && !first && !rest.isEmpty && isNumberFrom false seenPoint true rest
    else false

/-- Whether the setting that waits takes the number behind a dash. -/
def takesNumber (state : ArgumentState) (text : List Char) : Bool :=
  match state.pending with
  | some (setting, none) => setting.takesNegative && isNumberFrom true false false text
  | _ => false

/-- Goes on with an argument that is not two lone dashes. -/
def onArgument (state : ArgumentState) (argument : String) : Except Stop ArgumentState :=
  match argument.toList with
  | '-' :: '-' :: text => state.onLong text
  | ['-'] => state.onPlain argument
  | '-' :: text =>
    if state.takesNumber text then state.onPlain argument else state.onShort text
  | _ => state.onPlain argument

end ArgumentState

namespace Options

/-- Reads arguments on from what has been read before them. -/
def ofArgumentsFrom (state : ArgumentState) : List String → Except Stop Options
  | [] => state.settle
  | argument :: arguments =>
    if argument = "--" then
      match arguments with
      | [] => state.settle
      | extra :: _ => .error (.unknown extra)
    else do
      ofArgumentsFrom (← state.onArgument argument) arguments

/-- The options that the arguments of the command line stand for. -/
def ofArguments (arguments : List String) : Except Stop Options :=
  ofArgumentsFrom {} arguments

end Options
end AccessTrace
