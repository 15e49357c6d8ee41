/-
Module: AccessTrace.Proofs.Config.Sources
Purpose: A configuration is the same whether its parameters stand on the command line or in a file.
Main exports:
  ConfigEdit.all_replace, Options.toConfig_eq, Supplied, SuppliedParameters, sources_agree
-/
import Mathlib
import AccessTrace.ConfigFile
import AccessTrace.Options.Overrides
import AccessTrace.Proofs.Parameter.Percents

namespace AccessTrace

/-!
The command line edits a configuration text by text, and stops at the first
that cannot be read.  A file is read into a configuration parameter by
parameter.  The edit is brought into the form of the reading first; then both
take the parameters in one order and read each of them alike.
-/

open AccessTrace.Text
open ConfigFile (orDefault)

/-! ### Edits as readings -/

namespace ConfigEdit

/-- The parameters after an edit, if nothing was wrong with it. -/
def all (edit : ConfigEdit Unit) (config : Config) : Except ParameterError Config :=
  match edit.run.run config with
  | (.ok (), config) => .ok config
  | (.error error, _) => .error error

/-- An edit that replaces a parameter reads the parameter or keeps it, and goes on. -/
theorem all_replace {α : Type} (given : Option String) (read : String → Except ParameterError α)
    (change : α → Config → Config) (rest : ConfigEdit Unit) {config : Config} {current : α}
    (same : change current config = config) :
    all (do replace given read change; rest) config =
      orDefault given current read >>= fun value => rest.all (change value config) := by
  cases given with
  | none =>
      change all rest config = all rest (change current config)
      rw [same]
  | some text =>
      unfold replace orDefault
      simp only
      cases read text with
      | error error => rfl
      | ok value => rfl

end ConfigEdit

namespace Options

/-- The options on top of parameters, read one after the other. -/
theorem overrideAll_eq (options : Options) (config : Config) :
    options.overrideAll config = do
      let maxAddress ← orDefault options.maxAddress config.maxAddress
        (Parameter.readSize .maxAddress)
      let instructionCount ← orDefault options.instructions config.instructionCount
        (Parameter.readCount .instructionCount)
      let blockSize ← orDefault options.blockSize config.blockSize (Parameter.readSize .blockSize)
      let sequentialBlockCount ← orDefault options.sequentialBlocks config.sequentialBlockCount
        (Parameter.readCount .sequentialBlockCount)
      let writeRatio ← orDefault options.writePercent config.writeRatio
        (Parameter.readPercent .writeRatio)
      let readSequentialFraction ← orDefault options.readSequentialPercent
        config.readSequentialFraction (readFraction .readSequentialFraction)
      let writeSequentialFraction ← orDefault options.writeSequentialPercent
        config.writeSequentialFraction (readFraction .writeSequentialFraction)
      return {
        maxAddress, instructionCount, blockSize, sequentialBlockCount, writeRatio,
        readSequentialFraction, writeSequentialFraction
        alignToBlockSize := options.align || config.alignToBlockSize
        seed := options.seed <|> config.seed } := by
  change options.edit.all config = _
  unfold edit
  rw [ConfigEdit.all_replace _ _ _ _ rfl]
  refine bind_congr fun maxAddress => ?_
  rw [ConfigEdit.all_replace _ _ _ _ rfl]
  refine bind_congr fun instructionCount => ?_
  rw [ConfigEdit.all_replace _ _ _ _ rfl]
  refine bind_congr fun blockSize => ?_
  rw [ConfigEdit.all_replace _ _ _ _ rfl]
  refine bind_congr fun sequentialBlockCount => ?_
  rw [ConfigEdit.all_replace _ _ _ _ rfl]
  refine bind_congr fun writeRatio => ?_
  rw [ConfigEdit.all_replace _ _ _ _ rfl]
  refine bind_congr fun readSequentialFraction => ?_
  rw [ConfigEdit.all_replace _ _ _ _ rfl]
  rfl

/-- What has been read is read as the same again. -/
theorem orDefault_again {α : Type} {given : Option String}
    {read : String → Except ParameterError α} {value : α}
    (known : read (given.getD "") = .ok value) : orDefault given value read = .ok value := by
  cases given with
  | none => rfl
  | some text => exact known

/-- The parameters from options alone, read one after the other. -/
theorem toConfig_eq (options : Options) :
    options.toConfig = do
      let maxAddress ← Parameter.readSize .maxAddress (options.maxAddress.getD "")
      let instructionCount ←
        Parameter.readCount .instructionCount (options.instructions.getD "")
      let base : Config := { maxAddress, instructionCount }
      let blockSize ← orDefault options.blockSize base.blockSize (Parameter.readSize .blockSize)
      let sequentialBlockCount ← orDefault options.sequentialBlocks base.sequentialBlockCount
        (Parameter.readCount .sequentialBlockCount)
      let writeRatio ← orDefault options.writePercent base.writeRatio
        (Parameter.readPercent .writeRatio)
      let readSequentialFraction ← orDefault options.readSequentialPercent
        base.readSequentialFraction (readFraction .readSequentialFraction)
      let writeSequentialFraction ← orDefault options.writeSequentialPercent
        base.writeSequentialFraction (readFraction .writeSequentialFraction)
      return { base with
        blockSize, sequentialBlockCount, writeRatio, readSequentialFraction,
        writeSequentialFraction
        alignToBlockSize := options.align
        seed := options.seed } := by
  unfold toConfig
  cases size : Parameter.readSize .maxAddress (options.maxAddress.getD "") with
  | error error => rfl
  | ok maxAddress =>
      cases count : Parameter.readCount .instructionCount (options.instructions.getD "") with
      | error error => rfl
      | ok instructionCount =>
          -- The edit reads both texts again and replaces values by themselves.
          change options.overrideAll { maxAddress, instructionCount } = _
          rw [overrideAll_eq, orDefault_again size, orDefault_again count]
          simp only [Bool.or_false, Option.orElse_eq_orElse, Option.orElse_eq_or, Option.or_none]

end Options

/-! ### Numbers of either source -/

/-- A number as it is supplied: a text, or an integer in a file. -/
inductive Supplied where
  | text (written : String)
  | integer (value : Int64)
deriving DecidableEq

namespace Supplied

/-- The number as a value in a file. -/
def value : Supplied → Toml.Value
  | .text written => .string written
  | .integer value => .integer value

/-- The number as a text on the command line. -/
def shown : Supplied → String
  | .text written => written
  | .integer value => String.ofList (Numeral.ofInt value.toInt)

/-- Whether a value in a file is the number, or is missing like it. -/
def isFound (given : Option Supplied) : Option Toml.Value → Bool
  | none => given.isNone
  | some (.string written) => given = some (.text written)
  | some (.integer value) => given = some (.integer value)
  | some _ => false

theorem isFound_iff (given : Option Supplied) (found : Option Toml.Value) :
    isFound given found = true ↔ found = given.map value := by
  cases given with
  | none =>
      cases found with
      | none => simp [isFound]
      | some found => cases found <;> simp [isFound]
  | some number =>
      cases found with
      | none => simp [isFound]
      | some found => cases number <;> cases found <;> simp [isFound, value, eq_comm]

theorem takeNumber_value (field : Field) (given : Option Supplied) :
    ConfigFile.takeNumber field (given.map value) = .ok (given.map value) := by
  cases given with
  | none => rfl
  | some number =>
      cases number with
      | text written => simp [ConfigFile.takeNumber, value, Toml.Value.canonical?]
      | integer value => simp [ConfigFile.takeNumber, Supplied.value, Toml.Value.canonical?]

/-- A size is read alike from either source, and so is a missing one. -/
theorem readSize_value (field : Field) (given : Option Supplied) :
    ConfigFile.readSize field (given.map value) =
      Parameter.readSize field ((given.map shown).getD "") := by
  cases given with
  | none => rfl
  | some number =>
      cases number with
      | text written => rfl
      | integer value => exact (Parameter.readSize_ofInt field value).symm

/-- A count is read alike from either source, and so is a missing one. -/
theorem readCount_value (field : Field) (given : Option Supplied) :
    ConfigFile.readCount field (given.map value) =
      Parameter.readCount field ((given.map shown).getD "") := by
  cases given with
  | none => rfl
  | some number =>
      cases number with
      | text written => rfl
      | integer value => exact (Parameter.readCount_ofInt field value).symm

/-- A ratio is read alike from either source. -/
theorem readRatio_value (field : Field) (given : Supplied) :
    ConfigFile.readRatio field given.value = Parameter.readPercent field given.shown := by
  cases given with
  | text written => rfl
  | integer value => exact (Parameter.readPercent_ofInt field value).symm

/-- Readers that agree on what is given give the same default without it. -/
theorem orDefault_value {α : Type} (given : Option Supplied) (default : α)
    {read : Toml.Value → Except ParameterError α} {readText : String → Except ParameterError α}
    (alike : ∀ number : Supplied, read number.value = readText number.shown) :
    orDefault (given.map value) default read = orDefault (given.map shown) default readText := by
  cases given with
  | none => rfl
  | some number => exact alike number

end Supplied

/-! ### Tables of a file -/

/-- A word below 2^63 is the same number with a sign. -/
theorem toInt_toInt64 {value : UInt64} (small : value.toNat < 2 ^ 63) :
    value.toInt64.toInt = value.toNat := by
  have signed := UInt64.toInt64_ofNat' (n := value.toNat)
  rw [UInt64.ofNat_toNat] at signed
  rw [signed, Int64.toInt_ofNat_of_lt small]

namespace ConfigFile

theorem readSeed_map (key : String) {seed : Option UInt64}
    (small : ∀ value, seed = some value → value.toNat < 2 ^ 63) :
    readSeed key (seed.map fun value => .integer value.toInt64) = .ok seed := by
  cases seed with
  | none => rfl
  | some value =>
      have kept := toInt_toInt64 (small value rfl)
      have positive : ¬ value.toInt64 < 0 := by
        rw [Int64.lt_iff_toInt_lt, kept]
        exact not_lt.2 (Int.natCast_nonneg _)
      simp only [Option.map_some, readSeed, if_neg positive, kept, Int.toNat_natCast,
        UInt64.ofNat_toNat]

/-- A file with a table of parameters says what they say. -/
theorem parse_of_trace {text : String} {table entries : Toml.Table} {output : OutputTargets}
    {given : TraceSection} (parsed : Toml.parse text = .ok table)
    (trace : table.lookup "trace" = some (.table entries))
    (targets : readOutput (table.lookup "output") = .ok output)
    (read : traceOfEntries entries = .ok given) :
    parse text =
      match given.toConfig with
      | .ok config => .ok { trace := config, output }
      | .error error => .error { cause := .parameter error } := by
  have sections : readSections table = .ok (given, output) := by
    unfold readSections
    rw [trace, targets]
    change (traceOfEntries entries >>= _) = _
    rw [read]
    rfl
  unfold parse ofTable
  rw [parsed]
  simp only [sections]
  cases given.toConfig with
  | error error => rfl
  | ok config => rfl

end ConfigFile

/-! ### Parameters of either source -/

/-- The parameters that both sources can supply.  A file has no integers for
seeds from 2^63 on. -/
structure SuppliedParameters where
  maxAddress : Option Supplied := none
  instructionCount : Option Supplied := none
  blockSize : Option Supplied := none
  sequentialBlockCount : Option Supplied := none
  writeRatio : Option Supplied := none
  align : Bool := false
  seed : Option UInt64 := none
  seed_lt : ∀ value, seed = some value → value.toNat < 2 ^ 63

namespace SuppliedParameters

/-- Options that were given these parameters, and no others. -/
structure OnCommandLine (given : SuppliedParameters) (options : Options) : Prop where
  maxAddress : options.maxAddress = given.maxAddress.map Supplied.shown
  instructionCount : options.instructions = given.instructionCount.map Supplied.shown
  blockSize : options.blockSize = given.blockSize.map Supplied.shown
  sequentialBlockCount : options.sequentialBlocks = given.sequentialBlockCount.map Supplied.shown
  writeRatio : options.writePercent = given.writeRatio.map Supplied.shown
  readSequentialFraction : options.readSequentialPercent = none
  writeSequentialFraction : options.writeSequentialPercent = none
  align : options.align = given.align
  seed : options.seed = given.seed

/-- A table that holds these parameters, and no others.  A switch that is off
can be left out. -/
@[mk_iff]
structure InTable (given : SuppliedParameters) (entries : Toml.Table) : Prop where
  maxAddress : entries.lookup Field.maxAddress.name = given.maxAddress.map Supplied.value
  instructionCount :
    entries.lookup Field.instructionCount.name = given.instructionCount.map Supplied.value
  blockSize : entries.lookup Field.blockSize.name = given.blockSize.map Supplied.value
  sequentialBlockCount :
    entries.lookup Field.sequentialBlockCount.name = given.sequentialBlockCount.map Supplied.value
  writeRatio : entries.lookup Field.writeRatio.name = given.writeRatio.map Supplied.value
  readSequentialFraction : entries.lookup Field.readSequentialFraction.name = none
  writeSequentialFraction : entries.lookup Field.writeSequentialFraction.name = none
  align : entries.lookup "align_to_block_size" = some (.boolean given.align) ∨
    given.align = false ∧ entries.lookup "align_to_block_size" = none
  seed : entries.lookup "seed" = given.seed.map fun value => .integer value.toInt64

variable {given : SuppliedParameters} {options : Options} {entries : Toml.Table}

theorem readSeed_seed (given : SuppliedParameters) :
    ConfigFile.readSeed "seed" (given.seed.map fun value => .integer value.toInt64) =
      .ok given.seed :=
  ConfigFile.readSeed_map "seed" given.seed_lt

theorem readFlag_align (inTable : given.InTable entries) :
    ConfigFile.readFlag "align_to_block_size" (entries.lookup "align_to_block_size") =
      .ok given.align := by
  rcases inTable.align with present | ⟨off, absent⟩
  · rw [present]
    rfl
  · rw [absent, off]
    rfl

/-- The section of a file that holds the parameters. -/
def inFile (given : SuppliedParameters) : ConfigFile.TraceSection where
  maxAddress := given.maxAddress.map Supplied.value
  instructionCount := given.instructionCount.map Supplied.value
  blockSize := given.blockSize.map Supplied.value
  sequentialBlockCount := given.sequentialBlockCount.map Supplied.value
  writeRatio := given.writeRatio.map Supplied.value
  alignToBlockSize := given.align
  seed := given.seed

theorem traceOfEntries_eq (inTable : given.InTable entries) :
    ConfigFile.traceOfEntries entries = .ok given.inFile := by
  unfold ConfigFile.traceOfEntries
  simp only [inTable.maxAddress, inTable.instructionCount, inTable.blockSize,
    inTable.sequentialBlockCount, inTable.writeRatio, inTable.readSequentialFraction,
    inTable.writeSequentialFraction, inTable.seed, Supplied.takeNumber_value, readSeed_seed,
    readFlag_align inTable]
  rfl

/-- The parameters make the same configuration from either source, or the same
complaint. -/
theorem toConfig_inFile (onLine : given.OnCommandLine options) :
    given.inFile.toConfig = options.toConfig := by
  rw [Options.toConfig_eq]
  unfold ConfigFile.TraceSection.toConfig inFile
  rw [Supplied.readSize_value, ← onLine.maxAddress]
  refine bind_congr fun maxAddress => ?_
  rw [Supplied.readCount_value, ← onLine.instructionCount]
  refine bind_congr fun instructionCount => ?_
  simp only
  rw [Supplied.orDefault_value given.blockSize _
    fun number => Supplied.readSize_value .blockSize (some number), ← onLine.blockSize]
  refine bind_congr fun blockSize => ?_
  rw [Supplied.orDefault_value given.sequentialBlockCount _
    fun number => Supplied.readCount_value .sequentialBlockCount (some number),
    ← onLine.sequentialBlockCount]
  refine bind_congr fun sequentialBlockCount => ?_
  rw [Supplied.orDefault_value given.writeRatio _ (Supplied.readRatio_value .writeRatio),
    ← onLine.writeRatio]
  refine bind_congr fun writeRatio => ?_
  rw [onLine.readSequentialFraction, onLine.writeSequentialFraction, onLine.align, onLine.seed]
  simp only [orDefault, bind, Except.bind]

end SuppliedParameters

/-! ### The whole file -/

namespace SuppliedParameters

/-- A file with a table of these parameters, and with these targets. -/
def InText (given : SuppliedParameters) (text : String) (output : OutputTargets) : Prop :=
  ∃ table entries, Toml.parse text = .ok table ∧ table.lookup "trace" = some (.table entries) ∧
    ConfigFile.readOutput (table.lookup "output") = .ok output ∧ given.InTable entries

/-! Whether a file holds given parameters can be computed. -/

/-- Whether a switch in a file is on or off as it should be. -/
def isSwitch (on : Bool) : Option Toml.Value → Bool
  | none => !on
  | some (.boolean value) => value == on
  | some _ => false

theorem isSwitch_iff (on : Bool) (found : Option Toml.Value) :
    isSwitch on found = true ↔ found = some (.boolean on) ∨ on = false ∧ found = none := by
  cases found with
  | none => simp [isSwitch]
  | some found => cases found <;> simp [isSwitch]

instance (given : Option Supplied) (found : Option Toml.Value) :
    Decidable (found = given.map Supplied.value) :=
  decidable_of_iff _ (Supplied.isFound_iff given found)

instance (on : Bool) (found : Option Toml.Value) :
    Decidable (found = some (.boolean on) ∨ on = false ∧ found = none) :=
  decidable_of_iff _ (isSwitch_iff on found)

instance (seed : Option UInt64) (found : Option Toml.Value) :
    Decidable (found = seed.map fun value => .integer value.toInt64) :=
  decidable_of_iff (found = (seed.map fun value => Supplied.integer value.toInt64).map Supplied.value)
    (by rw [Option.map_map]; rfl)

instance (given : SuppliedParameters) (entries : Toml.Table) : Decidable (given.InTable entries) :=
  decidable_of_iff' _ (inTable_iff given entries)

/-- Whether a file holds the parameters and has the targets. -/
def isInText (given : SuppliedParameters) (text : String) (output : OutputTargets) : Bool :=
  match Toml.parse text with
  | .error _ => false
  | .ok table =>
    match table.lookup "trace" with
    | some (.table entries) =>
      ConfigFile.readOutput (table.lookup "output") = .ok output ∧ given.InTable entries
    | _ => false

theorem inText_of_isInText {given : SuppliedParameters} {text : String} {output : OutputTargets}
    (holds : given.isInText text output = true) : given.InText text output := by
  unfold isInText at holds
  split at holds
  · cases holds
  · rename_i table parsed
    split at holds
    · rename_i entries found
      obtain ⟨targets, inTable⟩ := of_decide_eq_true holds
      exact ⟨table, entries, parsed, found, targets, inTable⟩
    · cases holds

end SuppliedParameters

/-- A file with these parameters is read as the command line with them is. -/
theorem SuppliedParameters.parse_of_inText {given : SuppliedParameters} {options : Options}
    {text : String} {output : OutputTargets} (onLine : given.OnCommandLine options)
    (inText : given.InText text output) :
    ConfigFile.parse text =
      match options.toConfig with
      | .ok config => .ok { trace := config, output }
      | .error error => .error { cause := .parameter error } := by
  obtain ⟨table, entries, parsed, trace, targets, inTable⟩ := inText
  rw [ConfigFile.parse_of_trace parsed trace targets (traceOfEntries_eq inTable),
    toConfig_inFile onLine]

/-- Parameters on the command line and the same parameters in a file make the
same configuration, or the same complaint about the same parameter.  Files that
differ in which numbers they hold as integers, and which as the texts of those
integers, are read alike. -/
theorem sources_agree {given : SuppliedParameters} {options : Options} {text : String}
    {output : OutputTargets} (onLine : given.OnCommandLine options)
    (inText : given.InText text output) :
    (ConfigFile.parse text =
      match options.toConfig with
      | .ok config => .ok { trace := config, output }
      | .error error => .error { cause := .parameter error }) ∧
    ∀ (other : SuppliedParameters) (otherText : String), other.OnCommandLine options →
      other.InText otherText output → ConfigFile.parse otherText = ConfigFile.parse text := by
  have read := SuppliedParameters.parse_of_inText onLine inText
  refine ⟨read, ?_⟩
  intro other otherText otherOnLine otherInText
  rw [read]
  exact SuppliedParameters.parse_of_inText otherOnLine otherInText

/-- Parameters as texts, as an integer and not at all. -/
def mixedParameters : SuppliedParameters where
  maxAddress := some (.text "1k")
  instructionCount := some (.integer 10)
  align := true
  seed := some 7
  seed_lt := by
    intro value same
    cases same
    decide

theorem sources_agree_mixed :
    let options : Options :=
      { maxAddress := some "1k", instructions := some "10", align := true, seed := some 7 }
    let text := "[trace]\nmax_address = '1k'\ninstruction_count = 10\n" ++
      "align_to_block_size = true\nseed = 7\n"
    mixedParameters.OnCommandLine options ∧ mixedParameters.InText text {} ∧
      ConfigFile.parse text = .ok
        { trace :=
            { maxAddress := 1024, instructionCount := 10, alignToBlockSize := true,
              seed := some 7 } } := by
  intro options text
  have onLine : mixedParameters.OnCommandLine options := by
    constructor <;> rfl
  have inText : mixedParameters.InText text {} :=
    SuppliedParameters.inText_of_isInText (by decide +kernel)
  refine ⟨onLine, inText, ?_⟩
  have read := (sources_agree onLine inText).1
  have config : options.toConfig = .ok
      { maxAddress := 1024, instructionCount := 10, alignToBlockSize := true, seed := some 7 } := by
    decide +kernel
  rw [config] at read
  exact read

end AccessTrace
