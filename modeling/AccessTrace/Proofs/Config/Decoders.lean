/-
Module: AccessTrace.Proofs.Config.Decoders
Purpose: Parameters are the same whether they are decoded from JSON or from a configuration file.
Main exports:
  Binary64.same, Config.Same, Ratio, FileParameters, FileParameters.toConfig, Spelling,
  FileParameters.InJson, FileParameters.InFile, decoders_agree
-/
import Mathlib
import AccessTrace.Interchange.Decoding
import AccessTrace.Proofs.Binary64.Arithmetic
import AccessTrace.Proofs.Config.Sources
import AccessTrace.Proofs.Interchange.RunReport

namespace AccessTrace

open Json (Fault Fields NumberText Quoted Reading)
open ConfigFile (orDefault)

/-!
From JSON the parameters of a run are decoded field by field, and each field
has its own default.  A configuration file is a table of values of any sort
first; a configuration is begun with the two parameters that have no default,
and those that are in the table are put in place of the others.  What the
parameters stand for is written down here once, with all the defaults, and
both ways are shown to lead to it.
-/

/-! ### Numbers that are equal -/

namespace Binary64

/-- Whether two numbers are equal.  The two zeros are, and a value that is not a
number is not even equal to itself. -/
def same (first second : Binary64) : Bool :=
  first.le second && second.le first

section
variable {first second : Binary64} (hfirst : first.isFinite = true)
  (hsecond : second.isFinite = true)
include hfirst hsecond

theorem same_iff : first.same second = true ↔ first.toRat = second.toRat := by
  rw [same, Bool.and_eq_true, le_iff_toRat_le hfirst hsecond, le_iff_toRat_le hsecond hfirst]
  exact le_antisymm_iff.symm

/-- Only zero is written in two ways. -/
theorem eq_of_same (equal : first.same second = true) (nonzero : first.toRat ≠ 0) :
    first = second := by
  have value := (same_iff hfirst hsecond).1 equal
  have nonzero' : second.toRat ≠ 0 := by rwa [← value]
  apply eq_of_toRat hfirst hsecond value
  rw [isNegative_of_toRat hfirst nonzero, isNegative_of_toRat hsecond nonzero', value]

end

theorem same_self {number : Binary64} (finite : number.isFinite = true) :
    number.same number = true :=
  (same_iff finite finite).2 rfl

end Binary64

/-- Whether two configurations are equal where ratios are compared as numbers. -/
structure Config.Same (first second : Config) : Prop where
  maxAddress : first.maxAddress = second.maxAddress
  instructionCount : first.instructionCount = second.instructionCount
  writeRatio : first.writeRatio.same second.writeRatio = true
  writeSequentialFraction :
    first.writeSequentialFraction.same second.writeSequentialFraction = true
  readSequentialFraction : first.readSequentialFraction.same second.readSequentialFraction = true
  blockSize : first.blockSize = second.blockSize
  sequentialBlockCount : first.sequentialBlockCount = second.sequentialBlockCount
  alignToBlockSize : first.alignToBlockSize = second.alignToBlockSize
  seed : first.seed = second.seed

/-! ### What a file says -/

/-- A number that every sort of file has an integer for, and that is positive. -/
structure PositiveWord where
  value : UInt64
  positive : 0 < value
  small : value.toNat < 2 ^ 63

/-- A ratio as an integer, or as a float that is finite. -/
inductive Ratio where
  | integer (value : Int64)
  | float (value : Binary64) (finite : value.isFinite = true)

namespace Ratio

/-- The number that a ratio is. -/
def toReal : Ratio → Binary64
  | .integer value => .ofInt value.toInt
  | .float value _ => value

theorem isFinite_toReal (ratio : Ratio) : ratio.toReal.isFinite = true := by
  cases ratio with
  | integer value =>
      have least := value.le_toInt
      have greatest := value.toInt_lt
      exact Binary64.isFinite_ofInt (by omega)
  | float value finite => exact finite

end Ratio

/-- The parameters that a file has. -/
structure FileParameters where
  maxAddress : PositiveWord
  instructionCount : PositiveWord
  writeRatio : Option Ratio := none
  writeSequentialFraction : Option Ratio := none
  readSequentialFraction : Option Ratio := none
  blockSize : Option PositiveWord := none
  sequentialBlockCount : Option PositiveWord := none
  alignToBlockSize : Option Bool := none
  seed : Option UInt64 := none
  seed_lt : ∀ value, seed = some value → value.toNat < 2 ^ 63

/-- The configuration that the parameters stand for, with the values that it has
where none are given. -/
def FileParameters.toConfig (given : FileParameters) : Config where
  maxAddress := given.maxAddress.value
  instructionCount := given.instructionCount.value
  writeRatio := (given.writeRatio.map Ratio.toReal).getD (.ofNat 50)
  writeSequentialFraction := (given.writeSequentialFraction.map Ratio.toReal).getD .half
  readSequentialFraction := (given.readSequentialFraction.map Ratio.toReal).getD .half
  blockSize := (given.blockSize.map PositiveWord.value).getD 4096
  sequentialBlockCount := (given.sequentialBlockCount.map PositiveWord.value).getD 8
  alignToBlockSize := given.alignToBlockSize.getD false
  seed := given.seed

/-- How values of parameters stand in files of some sort. -/
structure Spelling (ν : Type) where
  word : UInt64 → ν → Bool
  ratio : Ratio → ν → Bool
  flag : Bool → ν → Bool

/-- Whether there is the value of a parameter that is given, and none of one
that is not. -/
def agree {α ν : Type} (isValue : α → ν → Bool) : Option α → Option ν → Bool
  | none, none => true
  | some given, some found => isValue given found
  | _, _ => false

section
variable {α β ν : Type} {isValue : α → ν → Bool} {given : α} {found : Option ν}

theorem exists_of_agree (agrees : agree isValue (some given) found = true) :
    ∃ value, found = some value ∧ isValue given value = true := by
  cases found with
  | none => cases agrees
  | some value => exact ⟨value, rfl, agrees⟩

theorem eq_none_of_agree (agrees : agree isValue none found = true) : found = none := by
  cases found with
  | none => rfl
  | some value => cases agrees

theorem eq_map_of_agree {given : Option α} {write : α → ν}
    (only : ∀ given value, isValue given value = true → value = write given)
    (agrees : agree isValue given found = true) : found = given.map write := by
  cases given with
  | none => exact eq_none_of_agree agrees
  | some given =>
      obtain ⟨value, rfl, isValue⟩ := exists_of_agree agrees
      rw [only given value isValue, Option.map_some]

end

namespace FileParameters

variable {ν : Type}

/-- Whether the values of the parameters are found under their keys.  Nothing is
said about the order of the keys, nor about other keys. -/
@[mk_iff]
structure Stand (given : FileParameters) (spelling : Spelling ν) (found : String → Option ν) :
    Prop where
  maxAddress : agree (fun given => spelling.word given.value) (some given.maxAddress)
    (found Field.maxAddress.name)
  instructionCount : agree (fun given => spelling.word given.value) (some given.instructionCount)
    (found Field.instructionCount.name)
  writeRatio : agree spelling.ratio given.writeRatio (found Field.writeRatio.name)
  writeSequentialFraction : agree spelling.ratio given.writeSequentialFraction
    (found Field.writeSequentialFraction.name)
  readSequentialFraction : agree spelling.ratio given.readSequentialFraction
    (found Field.readSequentialFraction.name)
  blockSize : agree (fun given => spelling.word given.value) given.blockSize
    (found Field.blockSize.name)
  sequentialBlockCount : agree (fun given => spelling.word given.value)
    given.sequentialBlockCount (found Field.sequentialBlockCount.name)
  alignToBlockSize : agree spelling.flag given.alignToBlockSize (found "align_to_block_size")
  seed : agree spelling.word given.seed (found "seed")

instance (given : FileParameters) (spelling : Spelling ν) (found : String → Option ν) :
    Decidable (given.Stand spelling found) :=
  decidable_of_iff' _ (stand_iff given spelling found)

end FileParameters

/-! ### Objects -/

/-- An integer with a sign as a number in a text. -/
def Json.Number.ofInt64 (value : Int64) : Json.Number :=
  if value < 0 then .negative value else .natural (UInt64.ofNat value.toInt.toNat)

theorem Json.Number.toReal_ofInt64 (value : Int64) :
    (ofInt64 value).toReal = .ofInt value.toInt := by
  have greatest := value.toInt_lt
  rw [ofInt64]
  split
  · rfl
  · rename_i above
    have nonneg : 0 ≤ value.toInt := not_lt.1 fun below => above (Int64.lt_iff_toInt_lt.2 below)
    have kept : (UInt64.ofNat value.toInt.toNat).toNat = value.toInt.toNat :=
      UInt64.toNat_ofNat_of_lt' (by rw [UInt64.size]; omega)
    rw [toReal, kept, ← Binary64.ofInt_natCast, Int.toNat_of_nonneg nonneg]

/-- Whether integers are read as they are. -/
def ReadsIntegers (read : NumberText → Except Fault Binary64) : Prop :=
  ∀ text value, text.value = .ok (.ofInt64 value) → read text = .ok (.ofInt value.toInt)

/-- The program's own reader reads them so. -/
theorem readsIntegers_real : ReadsIntegers NumberText.real := by
  intro text value integer
  rw [NumberText.real, integer, ← Json.Number.toReal_ofInt64]
  rfl

/-- A ratio in an object, by what makes reals of the texts of numbers. -/
def Ratio.isNumber (read : NumberText → Except Fault Binary64) : Ratio → Reading → Bool
  | .integer value, .number text => text.value = .ok (.ofInt64 value)
  | .float value _, .number text => read text = .ok value
  | _, _ => false

/-- Values in an object. -/
def jsonSpelling (read : NumberText → Except Fault Binary64) : Spelling Reading where
  word
    | value, .number text => text.value = .ok (.natural value)
    | _, _ => false
  ratio := Ratio.isNumber read
  flag
    | value, .boolean found => found == value
    | _, _ => false

section
variable {read : NumberText → Except Fault Binary64}

theorem word_of_jsonSpelling (value : UInt64) (reading : Reading)
    (isWord : (jsonSpelling read).word value reading = true) : Json.word reading = .ok value := by
  cases reading with
  | number text =>
      have number : text.value = .ok (.natural value) := of_decide_eq_true isWord
      rw [Json.word, number]
      rfl
  | _ => cases isWord

theorem nullable_of_jsonSpelling (value : UInt64) (reading : Reading)
    (isWord : (jsonSpelling read).word value reading = true) :
    Json.nullable Json.word reading = .ok (some value) := by
  have word := word_of_jsonSpelling value reading isWord
  cases reading with
  | number text => exact congrArg (Except.map some) word
  | _ => cases isWord

theorem flag_of_jsonSpelling (value : Bool) (reading : Reading)
    (isFlag : (jsonSpelling read).flag value reading = true) :
    Json.boolean reading = .ok value := by
  cases reading with
  | boolean found => exact congrArg _ (beq_iff_eq.1 isFlag)
  | _ => cases isFlag

theorem real_of_jsonSpelling (readsIntegers : ReadsIntegers read) (ratio : Ratio)
    (reading : Reading) (isRatio : (jsonSpelling read).ratio ratio reading = true) :
    Json.realBy read reading = .ok ratio.toReal := by
  cases reading with
  | number text =>
      cases ratio with
      | integer value => exact readsIntegers text value (of_decide_eq_true isRatio)
      | float value finite => exact (of_decide_eq_true isRatio : read text = .ok value)
  | _ => cases ratio <;> cases isRatio

end

section
variable {α β : Type} {isValue : β → Reading → Bool} {decode : Json.Decoder α} {value : β → α}
  (decodes : ∀ given reading, isValue given reading = true → decode reading = .ok (value given))
  {found : String → Option Reading} {name : String}
include decodes

theorem gives_required {given : β} (agrees : agree isValue (some given) (found name) = true) :
    (Fields.required name decode).Gives found (value given) := by
  obtain ⟨reading, present, isValue⟩ := exists_of_agree agrees
  exact .single present (decodes given reading isValue)

theorem gives_withDefault (default : α) {given : Option β}
    (agrees : agree isValue given (found name) = true) :
    (Fields.withDefault name decode default).Gives found ((given.map value).getD default) := by
  cases given with
  | none => exact .missing (eq_none_of_agree agrees)
  | some given =>
      obtain ⟨reading, present, isValue⟩ := exists_of_agree agrees
      exact .single present (decodes given reading isValue)

end

-- Stated so that nothing is computed: the fifty of the default would be rounded.
theorem Config.defaults_writeRatio : Config.defaults.writeRatio = .ofNat 50 := by
  rw [Config.defaults]

theorem Config.names_fields (read : NumberText → Except Fault Binary64) :
    (Config.fields read).names =
      ["max_address", "instruction_count", "write_ratio", "write_sequential_fraction",
        "read_sequential_fraction", "block_size", "sequential_block_count",
        "align_to_block_size", "seed"] := rfl

namespace FileParameters

variable {given : FileParameters} {read : NumberText → Except Fault Binary64}

theorem gives_toConfig (readsIntegers : ReadsIntegers read) {found : String → Option Reading}
    (stand : given.Stand (jsonSpelling read) found) :
    (Config.fields read).Gives found given.toConfig := by
  have word (given : PositiveWord) (reading : Reading)
      (isWord : (jsonSpelling read).word given.value reading = true) :
      Json.word reading = .ok given.value :=
    word_of_jsonSpelling given.value reading isWord
  refine ((((((((Fields.Gives.map Config.mk ?_).seq ?_).seq ?_).seq ?_).seq ?_).seq ?_).seq
    ?_).seq ?_).seq ?_
  · exact gives_required word stand.maxAddress
  · exact gives_required word stand.instructionCount
  · rw [Config.defaults_writeRatio]
    exact gives_withDefault (real_of_jsonSpelling readsIntegers) _ stand.writeRatio
  · exact gives_withDefault (real_of_jsonSpelling readsIntegers) _ stand.writeSequentialFraction
  · exact gives_withDefault (real_of_jsonSpelling readsIntegers) _ stand.readSequentialFraction
  · exact gives_withDefault word _ stand.blockSize
  · exact gives_withDefault word _ stand.sequentialBlockCount
  · have flag := gives_withDefault flag_of_jsonSpelling false stand.alignToBlockSize
    rwa [Option.map_id'] at flag
  · have seed := gives_withDefault nullable_of_jsonSpelling none stand.seed
    have same : (given.seed.map some).getD none = given.seed := by
      cases given.seed <;> rfl
    rwa [same] at seed

theorem Stand.congr {spelling : Spelling ν} {found other : String → Option ν}
    (stand : given.Stand spelling found)
    (equal : ∀ name ∈ (Config.fields read).names, other name = found name) :
    given.Stand spelling other := by
  rw [Config.names_fields] at equal
  simp only [List.forall_mem_cons] at equal
  obtain ⟨maxAddress, instructionCount, writeRatio, writeFraction, readFraction, blockSize,
    sequentialBlockCount, alignToBlockSize, seed, -⟩ := equal
  rw [stand_iff] at stand ⊢
  simpa only [Field.name, *] using stand

/-- A text with an object in which the parameters stand.  Its members may come
in any order, with others among them, as long as nothing is wrong with those. -/
def InJson (given : FileParameters) (read : NumberText → Except Fault Binary64) (text : String) :
    Prop :=
  ∃ members named rest, Json.readText text.toList = (.object members none, rest) ∧
    Json.skipBlanks rest = [] ∧ Fields.namedMembers members = .ok named ∧
      (Config.fields read).Fit named ∧ given.Stand (jsonSpelling read) fun name => named.lookup name

/-- The parameters in an object are decoded as what they stand for. -/
theorem decode_of_inJson (readsIntegers : ReadsIntegers read) {text : String}
    (inJson : given.InJson read text) :
    Json.decode (Config.ofJsonBy read) text = .ok given.toConfig := by
  obtain ⟨members, named, rest, parsed, ended, names, fit, stand⟩ := inJson
  have kept : given.Stand (jsonSpelling read) fun name =>
      (named.filter (·.1 ∈ (Config.fields read).names)).lookup name :=
    stand.congr fun name isName =>
      Fields.lookup_filter (· ∈ (Config.fields read).names) (decide_eq_true isName)
  have decoded : Config.ofJsonBy read (.object members none) = .ok given.toConfig :=
    Fields.Gives.decode names fit (gives_toConfig readsIntegers kept)
  rw [Json.decode, parsed]
  simp only [decoded, ended, bind, Except.bind, List.isEmpty_nil, if_true]

end FileParameters

/-! ### Tables -/

/-- A ratio as a value in a file. -/
def Ratio.toValue : Ratio → Toml.Value
  | .integer value => .integer value
  | .float value _ => .float value

/-- A word as a value in a file. -/
def PositiveWord.toValue (word : PositiveWord) : Toml.Value :=
  .integer word.value.toInt64

/-- Whether a value in a file is a ratio. -/
def Ratio.isValue : Ratio → Toml.Value → Bool
  | .integer value, .integer found => found = value
  | .float value _, .float found => found = value
  | _, _ => false

/-- Values in a table. -/
def tomlSpelling : Spelling Toml.Value where
  word
    | value, .integer found => found = value.toInt64
    | _, _ => false
  ratio := Ratio.isValue
  flag
    | value, .boolean found => found == value
    | _, _ => false

theorem word_of_tomlSpelling (word : UInt64) (value : Toml.Value)
    (isWord : tomlSpelling.word word value = true) : value = .integer word.toInt64 := by
  cases value with
  | integer found => exact congrArg _ (of_decide_eq_true isWord)
  | _ => cases isWord

theorem ratio_of_tomlSpelling (ratio : Ratio) (value : Toml.Value)
    (isRatio : tomlSpelling.ratio ratio value = true) : value = ratio.toValue := by
  cases ratio with
  | integer number =>
      cases value with
      | integer found => exact congrArg _ (of_decide_eq_true isRatio)
      | _ => cases isRatio
  | float number finite =>
      cases value with
      | float found => exact congrArg _ (of_decide_eq_true isRatio)
      | _ => cases isRatio

theorem flag_of_tomlSpelling (flag : Bool) (value : Toml.Value)
    (isFlag : tomlSpelling.flag flag value = true) : value = .boolean flag := by
  cases value with
  | boolean found => exact congrArg _ (beq_iff_eq.1 isFlag)
  | _ => cases isFlag

section
variable (field : Field)

theorem takeNumber_word (word : PositiveWord) :
    ConfigFile.takeNumber field (some word.toValue) = .ok (some word.toValue) := by
  simp [ConfigFile.takeNumber, PositiveWord.toValue, Toml.Value.canonical?]

theorem takeNumber_ratio (ratio : Ratio) :
    ConfigFile.takeNumber field (some ratio.toValue) = .ok (some ratio.toValue) := by
  cases ratio <;> simp [ConfigFile.takeNumber, Ratio.toValue, Toml.Value.canonical?]

theorem takeNumber_map {β : Type} {write : β → Toml.Value}
    (takes : ∀ given, ConfigFile.takeNumber field (some (write given)) = .ok (some (write given)))
    (given : Option β) :
    ConfigFile.takeNumber field (given.map write) = .ok (given.map write) := by
  cases given with
  | none => rfl
  | some given => exact takes given

theorem readFlag_flag (key : String) (given : Option Bool) :
    ConfigFile.readFlag key (given.map Toml.Value.boolean) = .ok (given.getD false) := by
  cases given <;> rfl

theorem readPositive_word (readText : String → Except ParameterError UInt64)
    (word : PositiveWord) :
    ConfigFile.readPositive field readText (some word.toValue) = .ok word.value := by
  have value := toInt_toInt64 word.small
  have positive := UInt64.lt_iff_toNat_lt.1 word.positive
  have below := word.small
  rw [PositiveWord.toValue, ConfigFile.readPositive, value, Parameter.positive, if_neg, if_pos,
    Int.toNat_natCast, UInt64.ofNat_toNat]
  · rw [UInt64.size]
    omega
  · rw [UInt64.toNat_zero] at positive
    omega

theorem readRatio_ratio (ratio : Ratio) :
    ConfigFile.readRatio field ratio.toValue = .ok ratio.toReal := by
  cases ratio with
  | integer value => rfl
  | float value finite => rw [Ratio.toValue, ConfigFile.readRatio, if_pos finite, Ratio.toReal]

end

theorem orDefault_map {α β ν : Type} (read : ν → Except ParameterError α) {write : β → ν}
    {value : β → α} (reads : ∀ given, read (write given) = .ok (value given)) (given : Option β)
    (default : α) :
    orDefault (given.map write) default read = .ok ((given.map value).getD default) := by
  cases given with
  | none => rfl
  | some given => exact reads given

theorem orDefault_word (field : Field) (readText : String → Except ParameterError UInt64)
    (given : Option PositiveWord) (default : UInt64) :
    (orDefault (given.map PositiveWord.toValue) default fun value =>
      ConfigFile.readPositive field readText (some value)) =
        .ok ((given.map PositiveWord.value).getD default) :=
  orDefault_map (fun value => ConfigFile.readPositive field readText (some value))
    (readPositive_word field readText) given default

namespace FileParameters

variable {given : FileParameters}

/-- The section of a file that has the parameters. -/
def inSection (given : FileParameters) : ConfigFile.TraceSection where
  maxAddress := some given.maxAddress.toValue
  instructionCount := some given.instructionCount.toValue
  writeRatio := given.writeRatio.map Ratio.toValue
  writeSequentialFraction := given.writeSequentialFraction.map Ratio.toValue
  readSequentialFraction := given.readSequentialFraction.map Ratio.toValue
  blockSize := given.blockSize.map PositiveWord.toValue
  sequentialBlockCount := given.sequentialBlockCount.map PositiveWord.toValue
  alignToBlockSize := given.alignToBlockSize.getD false
  seed := given.seed

theorem traceOfEntries_of_stand {entries : Toml.Table}
    (stand : given.Stand tomlSpelling fun name => entries.lookup name) :
    ConfigFile.traceOfEntries entries = .ok given.inSection := by
  have word (word : PositiveWord) (value : Toml.Value)
      (isWord : tomlSpelling.word word.value value = true) : value = word.toValue :=
    word_of_tomlSpelling word.value value isWord
  have maxAddress : entries.lookup Field.maxAddress.name = some given.maxAddress.toValue :=
    eq_map_of_agree word stand.maxAddress
  have instructionCount :
      entries.lookup Field.instructionCount.name = some given.instructionCount.toValue :=
    eq_map_of_agree word stand.instructionCount
  unfold ConfigFile.traceOfEntries
  simp only [maxAddress, instructionCount,
    eq_map_of_agree ratio_of_tomlSpelling stand.writeRatio,
    eq_map_of_agree ratio_of_tomlSpelling stand.writeSequentialFraction,
    eq_map_of_agree ratio_of_tomlSpelling stand.readSequentialFraction,
    eq_map_of_agree word stand.blockSize,
    eq_map_of_agree word stand.sequentialBlockCount,
    eq_map_of_agree flag_of_tomlSpelling stand.alignToBlockSize,
    eq_map_of_agree word_of_tomlSpelling stand.seed,
    takeNumber_word, takeNumber_map _ (takeNumber_word _), takeNumber_map _ (takeNumber_ratio _),
    readFlag_flag, ConfigFile.readSeed_map "seed" given.seed_lt]
  rfl

theorem toConfig_inSection (given : FileParameters) :
    given.inSection.toConfig = .ok given.toConfig := by
  unfold ConfigFile.TraceSection.toConfig inSection
  simp only [ConfigFile.readSize, ConfigFile.readCount, readPositive_word,
    orDefault_word, orDefault_map _ (readRatio_ratio _), bind, Except.bind]
  rfl

/-- A file with a table in which the parameters stand, and with these targets. -/
def InFile (given : FileParameters) (text : String) (output : OutputTargets) : Prop :=
  ∃ table entries, Toml.parse text = .ok table ∧ table.lookup "trace" = some (.table entries) ∧
    ConfigFile.readOutput (table.lookup "output") = .ok output ∧
      given.Stand tomlSpelling fun name => entries.lookup name

theorem parse_of_inFile {text : String} {output : OutputTargets}
    (inFile : given.InFile text output) :
    ConfigFile.parse text = .ok { trace := given.toConfig, output } := by
  obtain ⟨table, entries, parsed, trace, targets, stand⟩ := inFile
  rw [ConfigFile.parse_of_trace parsed trace targets (traceOfEntries_of_stand stand),
    toConfig_inSection]

/-! Whether a text has given parameters can be computed. -/

/-- Whether the parameters stand in an object. -/
def isInJson (given : FileParameters) (read : NumberText → Except Fault Binary64)
    (text : String) : Bool :=
  match Json.readText text.toList with
  | (.object members none, rest) =>
    match Fields.namedMembers members with
    | .ok named =>
      Json.skipBlanks rest = [] ∧ (Config.fields read).Fit named ∧
        given.Stand (jsonSpelling read) fun name => named.lookup name
    | .error _ => false
  | _ => false

theorem inJson_of_isInJson {read : NumberText → Except Fault Binary64} {text : String}
    (holds : given.isInJson read text = true) : given.InJson read text := by
  unfold isInJson at holds
  split at holds
  · rename_i members rest parsed
    split at holds
    · rename_i named names
      obtain ⟨ended, fit, stand⟩ := of_decide_eq_true holds
      exact ⟨members, named, rest, parsed, ended, names, fit, stand⟩
    · cases holds
  · cases holds

/-- Whether the parameters stand in a table of a file, and the file has the targets. -/
def isInFile (given : FileParameters) (text : String) (output : OutputTargets) : Bool :=
  match Toml.parse text with
  | .error _ => false
  | .ok table =>
    match table.lookup "trace" with
    | some (.table entries) =>
      ConfigFile.readOutput (table.lookup "output") = .ok output ∧
        given.Stand tomlSpelling fun name => entries.lookup name
    | _ => false

theorem inFile_of_isInFile {text : String} {output : OutputTargets}
    (holds : given.isInFile text output = true) : given.InFile text output := by
  unfold isInFile at holds
  split at holds
  · cases holds
  · rename_i table parsed
    split at holds
    · rename_i entries found
      obtain ⟨targets, stand⟩ := of_decide_eq_true holds
      exact ⟨table, entries, parsed, found, targets, stand⟩
    · cases holds

end FileParameters

/-! ### Files with the same parameters -/

/-- Whether two ratios are equal as numbers. -/
def Ratio.same (first second : Ratio) : Bool :=
  first.toReal.same second.toReal

/-- Whether two files have the same parameters, where ratios are compared as
numbers. -/
structure FileParameters.Alike (first second : FileParameters) : Prop where
  maxAddress : first.maxAddress.value = second.maxAddress.value
  instructionCount : first.instructionCount.value = second.instructionCount.value
  writeRatio : agree Ratio.same first.writeRatio second.writeRatio
  writeSequentialFraction :
    agree Ratio.same first.writeSequentialFraction second.writeSequentialFraction
  readSequentialFraction :
    agree Ratio.same first.readSequentialFraction second.readSequentialFraction
  blockSize : first.blockSize.map PositiveWord.value = second.blockSize.map PositiveWord.value
  sequentialBlockCount : first.sequentialBlockCount.map PositiveWord.value =
    second.sequentialBlockCount.map PositiveWord.value
  alignToBlockSize : first.alignToBlockSize = second.alignToBlockSize
  seed : first.seed = second.seed

theorem isFinite_fifty : (Binary64.ofNat 50).isFinite = true :=
  Binary64.isFinite_ofNat_of_lt (by norm_num)

theorem isFinite_half : Binary64.half.isFinite = true := by
  decide +kernel

section
variable {default : Binary64} (finite : default.isFinite = true)
include finite

theorem isFinite_getD (given : Option Ratio) :
    ((given.map Ratio.toReal).getD default).isFinite = true := by
  cases given with
  | none => exact finite
  | some ratio => exact ratio.isFinite_toReal

theorem same_getD {first second : Option Ratio} (equal : agree Ratio.same first second = true) :
    ((first.map Ratio.toReal).getD default).same ((second.map Ratio.toReal).getD default) =
      true := by
  cases first with
  | none =>
      rw [eq_none_of_agree equal]
      exact Binary64.same_self finite
  | some ratio =>
      obtain ⟨other, rfl, equal⟩ := exists_of_agree equal
      exact equal

end

namespace FileParameters

theorem finite_reals_toConfig (given : FileParameters) :
    ∀ real ∈ given.toConfig.reals, real.isFinite = true := by
  simp only [Config.reals, toConfig, List.forall_mem_cons]
  exact ⟨isFinite_getD isFinite_fifty _, isFinite_getD isFinite_half _,
    isFinite_getD isFinite_half _, by simp⟩

theorem Alike.same_toConfig {first second : FileParameters} (alike : first.Alike second) :
    first.toConfig.Same second.toConfig where
  maxAddress := alike.maxAddress
  instructionCount := alike.instructionCount
  writeRatio := same_getD isFinite_fifty alike.writeRatio
  writeSequentialFraction := same_getD isFinite_half alike.writeSequentialFraction
  readSequentialFraction := same_getD isFinite_half alike.readSequentialFraction
  blockSize := congrArg (·.getD 4096) alike.blockSize
  sequentialBlockCount := congrArg (·.getD 8) alike.sequentialBlockCount
  alignToBlockSize := congrArg (·.getD false) alike.alignToBlockSize
  seed := alike.seed

end FileParameters

/-- Equal configurations in which no ratio is zero are the same. -/
theorem Config.Same.eq {first second : Config} (same : first.Same second)
    (finite : ∀ real ∈ first.reals, real.isFinite = true)
    (finite' : ∀ real ∈ second.reals, real.isFinite = true)
    (nonzero : ∀ real ∈ first.reals, real.toRat ≠ 0) : first = second := by
  obtain ⟨maxAddress, instructionCount, writeRatio, writeFraction, readFraction, blockSize,
    sequentialBlockCount, alignToBlockSize, seed⟩ := first
  obtain ⟨maxAddress', instructionCount', writeRatio', writeFraction', readFraction', blockSize',
    sequentialBlockCount', alignToBlockSize', seed'⟩ := second
  simp only [reals, List.forall_mem_cons] at finite finite' nonzero
  obtain ⟨rfl, rfl, ratio, write, read, rfl, rfl, rfl, rfl⟩ := same
  cases Binary64.eq_of_same finite.1 finite'.1 ratio nonzero.1
  cases Binary64.eq_of_same finite.2.1 finite'.2.1 write nonzero.2.1
  cases Binary64.eq_of_same finite.2.2.1 finite'.2.2.1 read nonzero.2.2.1
  rfl

/-- An object and a configuration file with the same parameters are decoded as
equal configurations.  They are the same in all respects, if no ratio is zero. -/
theorem decoders_agree {read : NumberText → Except Fault Binary64}
    (readsIntegers : ReadsIntegers read) {first second : FileParameters}
    (alike : first.Alike second) {json toml : String} {output : OutputTargets}
    (inJson : first.InJson read json) (inFile : second.InFile toml output) :
    Json.decode (Config.ofJsonBy read) json = .ok first.toConfig ∧
      ConfigFile.parse toml = .ok { trace := second.toConfig, output } ∧
      first.toConfig.Same second.toConfig ∧
      ((∀ real ∈ first.toConfig.reals, real.toRat ≠ 0) → first.toConfig = second.toConfig) := by
  have same := alike.same_toConfig
  refine ⟨FileParameters.decode_of_inJson readsIntegers inJson,
    FileParameters.parse_of_inFile inFile, same, ?_⟩
  exact same.eq first.finite_reals_toConfig second.finite_reals_toConfig

/-- Parameters as an object may have them. -/
def objectParameters : FileParameters where
  maxAddress := { value := 1000, positive := by decide, small := by decide }
  instructionCount := { value := 10, positive := by decide, small := by decide }
  writeRatio := some (.integer 25)
  readSequentialFraction := some (.float (.zero true) rfl)
  sequentialBlockCount := some { value := 3, positive := by decide, small := by decide }
  seed := some 11
  seed_lt := by
    intro value same
    cases same
    decide

/-- The same parameters as a table may have them. -/
def tableParameters : FileParameters :=
  { objectParameters with
    writeRatio := some (.float (.ofNat 25) (Binary64.isFinite_ofNat_of_lt (by norm_num)))
    readSequentialFraction := some (.integer 0) }

/-- Order, other keys, and the way in which numbers are written make no difference. -/
theorem decoders_agree_reordered :
    let json := "\x7b\"seed\": 11, \"note\": [1e999, \x7b\"seed\": null\x7d],\n" ++
      "\"write_ratio\": 25, \"max\\u005faddress\": 1000, \"sequential_block_count\": 3,\n" ++
      "\"instruction_count\": 10, \"read_sequential_fraction\": -0\x7d\n"
    let toml := "[trace]\nread_sequential_fraction = -0\ninstruction_count = 0xA\n" ++
      "note = [inf]\nmax_address = 1_000\nwrite_ratio = 2.5e1\nseed = 11\n" ++
      "sequential_block_count = +3\n"
    ReadsIntegers NumberText.real ∧ objectParameters.Alike tableParameters ∧
      objectParameters.InJson NumberText.real json ∧ tableParameters.InFile toml {} ∧
      Json.decode Config.ofJson json = .ok objectParameters.toConfig ∧
      ConfigFile.parse toml = .ok { trace := tableParameters.toConfig } ∧
      objectParameters.toConfig.Same tableParameters.toConfig := by
  intro json toml
  have alike : objectParameters.Alike tableParameters := by
    constructor <;> decide +kernel
  have inJson : objectParameters.InJson NumberText.real json :=
    FileParameters.inJson_of_isInJson (by decide +kernel)
  have inFile : tableParameters.InFile toml {} :=
    FileParameters.inFile_of_isInFile (by decide +kernel)
  obtain ⟨decoded, parsed, same, -⟩ := decoders_agree readsIntegers_real alike inJson inFile
  exact ⟨readsIntegers_real, alike, inJson, inFile, decoded, parsed, same⟩

end AccessTrace
