/-
Module: AccessTrace.Proofs.Options.Overrides
Purpose: What was given takes the place of what was there, up to the first text that cannot be read.
Main exports:
  Field.Value, Field.read, Config.get, Config.set, Options.onTopOf, Replaced, Applied,
  FirstFailure, PartlyApplied, Options.override_eq_ok_iff, Options.override_eq_error_iff,
  Merged, AgreeElsewhere, Options.merge_eq_ok_iff, Options.Precedence, Options.precedence
-/
import Mathlib
import AccessTrace.Options.Overrides

namespace AccessTrace

/-!
Parameters are looked at one by one, by name.  An edit that replaces one of
them leaves all others alone, and the whole edit goes through a list of them
and does not come back to any.  So what it does, or where it stops, follows
from the texts one by one.
-/

open ConfigEdit (replace)

/-! ### Parameters by name -/

namespace Field

/-- What the values of a parameter are. -/
abbrev Value : Field → Type
  | .maxAddress | .instructionCount | .blockSize | .sequentialBlockCount => UInt64
  | .writeRatio | .writeSequentialFraction | .readSequentialFraction => Binary64

/-- The parameters in the order in which options are read. -/
def reading : List Field :=
  [.maxAddress, .instructionCount, .blockSize, .sequentialBlockCount, .writeRatio,
    .readSequentialFraction, .writeSequentialFraction]

theorem mem_reading (field : Field) : field ∈ reading := by
  cases field <;> decide

theorem nodup_reading : reading.Nodup := by
  decide

/-- The value that an option stands for.  Bursts are given in percent. -/
def read : (field : Field) → String → Except ParameterError field.Value
  | .maxAddress => Parameter.readSize .maxAddress
  | .instructionCount => Parameter.readCount .instructionCount
  | .blockSize => Parameter.readSize .blockSize
  | .sequentialBlockCount => Parameter.readCount .sequentialBlockCount
  | .writeRatio => Parameter.readPercent .writeRatio
  | .readSequentialFraction => fun text =>
      (Parameter.readPercent .readSequentialFraction text).map (· / .hundred)
  | .writeSequentialFraction => fun text =>
      (Parameter.readPercent .writeSequentialFraction text).map (· / .hundred)

end Field

namespace Config

/-- The value of a parameter. -/
def get (config : Config) : (field : Field) → field.Value
  | .maxAddress => config.maxAddress
  | .instructionCount => config.instructionCount
  | .blockSize => config.blockSize
  | .sequentialBlockCount => config.sequentialBlockCount
  | .writeRatio => config.writeRatio
  | .readSequentialFraction => config.readSequentialFraction
  | .writeSequentialFraction => config.writeSequentialFraction

/-- The parameters with another value for one of them. -/
def set (config : Config) : (field : Field) → field.Value → Config
  | .maxAddress, value => { config with maxAddress := value }
  | .instructionCount, value => { config with instructionCount := value }
  | .blockSize, value => { config with blockSize := value }
  | .sequentialBlockCount, value => { config with sequentialBlockCount := value }
  | .writeRatio, value => { config with writeRatio := value }
  | .readSequentialFraction, value => { config with readSequentialFraction := value }
  | .writeSequentialFraction, value => { config with writeSequentialFraction := value }

@[simp] theorem get_set_self (config : Config) (field : Field) (value : field.Value) :
    (config.set field value).get field = value := by
  cases field <;> rfl

theorem get_set_of_ne (config : Config) {field other : Field} (value : field.Value)
    (apart : other ≠ field) : (config.set field value).get other = config.get other := by
  cases field <;> cases other <;> first | rfl | exact absurd rfl apart

@[simp] theorem alignToBlockSize_set (config : Config) (field : Field) (value : field.Value) :
    (config.set field value).alignToBlockSize = config.alignToBlockSize := by
  cases field <;> rfl

@[simp] theorem seed_set (config : Config) (field : Field) (value : field.Value) :
    (config.set field value).seed = config.seed := by
  cases field <;> rfl

/-- Parameters with the same values, the same alignment and the same seed are
the same. -/
theorem ext_get {config other : Config} (values : ∀ field, config.get field = other.get field)
    (align : config.alignToBlockSize = other.alignToBlockSize)
    (seed : config.seed = other.seed) : config = other := by
  cases config
  cases other
  cases values .maxAddress
  cases values .instructionCount
  cases values .blockSize
  cases values .sequentialBlockCount
  cases values .writeRatio
  cases values .readSequentialFraction
  cases values .writeSequentialFraction
  cases align
  cases seed
  rfl

end Config

namespace Options

/-- The text that was given for a parameter. -/
def given (options : Options) : Field → Option String
  | .maxAddress => options.maxAddress
  | .instructionCount => options.instructions
  | .blockSize => options.blockSize
  | .sequentialBlockCount => options.sequentialBlocks
  | .writeRatio => options.writePercent
  | .readSequentialFraction => options.readSequentialPercent
  | .writeSequentialFraction => options.writeSequentialPercent

/-- Whether the text for a parameter, if there is one, can be read. -/
def Reads (options : Options) (field : Field) : Prop :=
  ∀ text, options.given field = some text → ∃ value, field.read text = .ok value

/-- Each option from `later` where it was given there, and from `earlier`
otherwise.  Switches are on if they are on in one of the two. -/
def onTopOf (later earlier : Options) : Options where
  output := later.output <|> earlier.output
  jsonReport := later.jsonReport <|> earlier.jsonReport
  maxAddress := later.maxAddress <|> earlier.maxAddress
  instructions := later.instructions <|> earlier.instructions
  blockSize := later.blockSize <|> earlier.blockSize
  sequentialBlocks := later.sequentialBlocks <|> earlier.sequentialBlocks
  align := later.align || earlier.align
  writePercent := later.writePercent <|> earlier.writePercent
  readSequentialPercent := later.readSequentialPercent <|> earlier.readSequentialPercent
  writeSequentialPercent := later.writeSequentialPercent <|> earlier.writeSequentialPercent
  seed := later.seed <|> earlier.seed
  config := later.config <|> earlier.config
  dryRun := later.dryRun || earlier.dryRun
  verbose := later.verbose || earlier.verbose

theorem given_onTopOf (later earlier : Options) (field : Field) :
    (later.onTopOf earlier).given field = (later.given field <|> earlier.given field) := by
  cases field <;> rfl

end Options

/-! ### What an edit is to do -/

/-- One parameter after an edit: the value of the text, if there is one, and
the value from before otherwise. -/
def Replaced (options : Options) (config result : Config) (field : Field) : Prop :=
  match options.given field with
  | some text => field.read text = .ok (result.get field)
  | none => result.get field = config.get field

/-- Parameters on which the whole edit has been made. -/
structure Applied (options : Options) (config result : Config) : Prop where
  replaced : ∀ field, Replaced options config result field
  align : result.alignToBlockSize = (options.align || config.alignToBlockSize)
  seed : result.seed = (options.seed <|> config.seed)

/-- Parameters on which the edit has been made as far as some of them are
concerned, and on which nothing else has changed. -/
structure PartlyApplied (options : Options) (done : List Field) (config result : Config) :
    Prop where
  replaced : ∀ field ∈ done, Replaced options config result field
  kept : ∀ field, field ∉ done → result.get field = config.get field
  align : result.alignToBlockSize = config.alignToBlockSize
  seed : result.seed = config.seed

/-- The first of some parameters with a text that cannot be read, and the
complaint about it. -/
structure FirstFailure (options : Options) (fields before : List Field) (field : Field)
    (error : ParameterError) : Prop where
  order : before ++ [field] <+: fields
  reads : ∀ earlier ∈ before, options.Reads earlier
  fails : ∃ text, options.given field = some text ∧ field.read text = .error error

section

variable {options : Options} {config result other : Config} {field : Field}
  {fields before before' done : List Field} {field' : Field} {error error' : ParameterError}

theorem Replaced.reads (replaced : Replaced options config result field) :
    options.Reads field := by
  intro text given
  unfold Replaced at replaced
  rw [given] at replaced
  exact ⟨_, replaced⟩

theorem replaced_of_given {text : String} (given : options.given field = some text) :
    Replaced options config result field ↔ field.read text = .ok (result.get field) := by
  unfold Replaced
  rw [given]

theorem replaced_of_not_given (given : options.given field = none) :
    Replaced options config result field ↔ result.get field = config.get field := by
  unfold Replaced
  rw [given]

/-- Only the values before and after count. -/
theorem Replaced.congr {config' result' : Config} (replaced : Replaced options config result field)
    (start : options.given field = none → config'.get field = config.get field)
    (finish : result'.get field = result.get field) :
    Replaced options config' result' field := by
  cases given : options.given field with
  | some text =>
      rw [replaced_of_given given] at replaced ⊢
      rw [replaced, finish]
  | none =>
      rw [replaced_of_not_given given] at replaced ⊢
      rw [finish, replaced, start given]

/-- There is only one value that a parameter can come to have. -/
theorem Replaced.get_eq (replaced : Replaced options config result field)
    (again : Replaced options config other field) : result.get field = other.get field := by
  cases given : options.given field with
  | some text =>
      rw [replaced_of_given given] at replaced again
      exact Except.ok.inj (replaced.symm.trans again)
  | none =>
      rw [replaced_of_not_given given] at replaced again
      rw [replaced, again]

theorem Applied.unique (applied : Applied options config result)
    (again : Applied options config other) : result = other :=
  Config.ext_get (fun field => (applied.replaced field).get_eq (again.replaced field))
    (applied.align.trans again.align.symm) (applied.seed.trans again.seed.symm)

theorem Applied.reads (applied : Applied options config result) (field : Field) :
    options.Reads field :=
  (applied.replaced field).reads

theorem PartlyApplied.unique (partly : PartlyApplied options done config result)
    (again : PartlyApplied options done config other) : result = other := by
  refine Config.ext_get (fun field => ?_) (partly.align.trans again.align.symm)
    (partly.seed.trans again.seed.symm)
  by_cases mem : field ∈ done
  · exact (partly.replaced field mem).get_eq (again.replaced field mem)
  · rw [partly.kept field mem, again.kept field mem]

/-- A parameter replaced, and then others. -/
theorem PartlyApplied.cons {next : Config} (first : PartlyApplied options [field] config next)
    (rest : PartlyApplied options done next result) (fresh : field ∉ done) :
    PartlyApplied options (field :: done) config result where
  replaced := by
    intro other mem
    rcases List.mem_cons.1 mem with rfl | later
    · exact (first.replaced other (by simp)).congr (fun _ => rfl) (rest.kept other fresh)
    · have apart : other ≠ field := fun same => fresh (same ▸ later)
      exact (rest.replaced other later).congr
        (fun _ => (first.kept other (by simpa using apart)).symm) rfl
  kept := by
    intro other notMem
    rw [List.mem_cons, not_or] at notMem
    rw [rest.kept other notMem.2, first.kept other (by simpa using notMem.1)]
  align := rest.align.trans first.align
  seed := rest.seed.trans first.seed

theorem FirstFailure.not_reads (failure : FirstFailure options fields before field error) :
    ¬ options.Reads field := by
  intro reads
  obtain ⟨text, given, fails⟩ := failure.fails
  obtain ⟨value, ok⟩ := reads text given
  rw [fails] at ok
  cases ok

theorem FirstFailure.cons {head : Field} (reads : options.Reads head)
    (failure : FirstFailure options fields before field error) :
    FirstFailure options (head :: fields) (head :: before) field error where
  order := List.cons_prefix_cons.2 ⟨rfl, failure.order⟩
  reads := List.forall_mem_cons.2 ⟨reads, failure.reads⟩
  fails := failure.fails

/-- What comes before one first failure comes before the other. -/
theorem FirstFailure.isPrefix (failure : FirstFailure options fields before field error)
    (again : FirstFailure options fields before' field' error') : before <+: before' := by
  have first : before <+: fields := (List.prefix_append _ _).trans failure.order
  rcases List.prefix_or_prefix_of_prefix first again.order with shorter | longer
  · rcases List.prefix_concat_iff.1 shorter with whole | within
    · have mem : field' ∈ before := by simp [whole]
      exact absurd (failure.reads field' mem) again.not_reads
    · exact within
  · have mem : field' ∈ before := longer.subset (by simp)
    exact absurd (failure.reads field' mem) again.not_reads

/-- There is only one first failure. -/
theorem FirstFailure.unique (failure : FirstFailure options fields before field error)
    (again : FirstFailure options fields before' field' error') :
    before = before' ∧ error = error' := by
  obtain rfl : before = before' :=
    (failure.isPrefix again).eq_of_length_le (again.isPrefix failure).length_le
  have next : before ++ [field] = before ++ [field'] :=
    (List.prefix_of_prefix_length_le failure.order again.order (by simp)).eq_of_length (by simp)
  obtain rfl : field = field' := by simpa using next
  obtain ⟨text, given, fails⟩ := failure.fails
  obtain ⟨text', given', fails'⟩ := again.fails
  obtain rfl : text = text' := Option.some.inj (given.symm.trans given')
  exact ⟨rfl, Except.error.inj (fails.symm.trans fails')⟩

end

/-! ### What it does -/

namespace Options

/-- One parameter replaced by what was given for it. -/
def replaceField (options : Options) (field : Field) : ConfigEdit Unit :=
  replace (options.given field) field.read fun value config => config.set field value

/-- The end of the edit, which cannot fail. -/
def finish (options : Options) (config : Config) : Config :=
  { config with
    alignToBlockSize := options.align || config.alignToBlockSize
    seed := options.seed <|> config.seed }

theorem get_finish (options : Options) (config : Config) (field : Field) :
    (options.finish config).get field = config.get field := by
  cases field <;> rfl

/-- Some parameters replaced in turn, and then the end of the edit. -/
def replaceFields (options : Options) : List Field → ConfigEdit Unit
  | [] => modify options.finish
  | field :: fields => do
    options.replaceField field
    options.replaceFields fields

theorem edit_eq_replaceFields (options : Options) :
    options.edit = options.replaceFields Field.reading :=
  rfl

variable {options : Options} {config : Config}

/-- Replacing one parameter either gives it its new value or stops the edit
where it is. -/
theorem run_replaceFields_cons (options : Options) (field : Field) (fields : List Field)
    (config : Config) :
    (∃ next, PartlyApplied options [field] config next ∧
      (options.replaceFields (field :: fields)).run.run config =
        (options.replaceFields fields).run.run next) ∨
    ∃ text error, options.given field = some text ∧ field.read text = .error error ∧
      (options.replaceFields (field :: fields)).run.run config = (.error error, config) := by
  cases given : options.given field with
  | none =>
      refine .inl ⟨config, ?_, ?_⟩
      · have replaced : Replaced options config config field :=
          (replaced_of_not_given given).2 rfl
        exact ⟨by simpa using replaced, fun _ _ => rfl, rfl, rfl⟩
      · simp only [replaceFields, replaceField, given, replace]
        rfl
  | some text =>
      cases outcome : field.read text with
      | ok value =>
          refine .inl ⟨config.set field value, ?_, ?_⟩
          · have replaced : Replaced options config (config.set field value) field := by
              rw [replaced_of_given given, outcome, Config.get_set_self]
            exact ⟨by simpa using replaced,
              fun other apart => config.get_set_of_ne value (by simpa using apart),
              config.alignToBlockSize_set field value, config.seed_set field value⟩
          · simp only [replaceFields, replaceField, given, replace, outcome]
            rfl
      | error error =>
          refine .inr ⟨text, error, rfl, outcome, ?_⟩
          simp only [replaceFields, replaceField, given, replace, outcome]
          rfl

/-- Parameters replaced in turn: either all of them are, or the edit stops at
the first whose text cannot be read. -/
theorem run_replaceFields (options : Options) {fields : List Field} (nodup : fields.Nodup)
    (config : Config) :
    (∃ next, PartlyApplied options fields config next ∧
      (options.replaceFields fields).run.run config = (.ok (), options.finish next)) ∨
    ∃ before field error next, FirstFailure options fields before field error ∧
      PartlyApplied options before config next ∧
      (options.replaceFields fields).run.run config = (.error error, next) := by
  induction fields generalizing config with
  | nil => exact .inl ⟨config, ⟨by simp, fun _ _ => rfl, rfl, rfl⟩, rfl⟩
  | cons head tail ih =>
      obtain ⟨fresh, nodup⟩ := List.nodup_cons.1 nodup
      rcases run_replaceFields_cons options head tail config with
        ⟨middle, first, step⟩ | ⟨text, error, given, fails, stop⟩
      · rcases ih nodup middle with
          ⟨next, rest, run⟩ | ⟨before, field, error, next, failure, rest, run⟩
        · exact .inl ⟨next, first.cons rest fresh, step.trans run⟩
        · -- The head is not among the parameters that were replaced after it.
          have within : before <+: tail := (List.prefix_append _ _).trans failure.order
          have fresh : head ∉ before := fun mem => fresh (within.subset mem)
          exact .inr ⟨head :: before, field, error, next,
            failure.cons (first.replaced head (by simp)).reads, first.cons rest fresh,
            step.trans run⟩
      · exact .inr ⟨[], head, error, config, ⟨⟨tail, rfl⟩, by simp, text, given, fails⟩,
          ⟨by simp, fun _ _ => rfl, rfl, rfl⟩, stop⟩

/-- All that was given has been put among the parameters, or all before the
first failure. -/
theorem override_cases (options : Options) (config : Config) :
    (∃ result, Applied options config result ∧ options.override config = (.ok (), result)) ∨
    ∃ before field error result, FirstFailure options Field.reading before field error ∧
      PartlyApplied options before config result ∧
      options.override config = (.error error, result) := by
  unfold override
  rw [edit_eq_replaceFields]
  rcases run_replaceFields options Field.nodup_reading config with
    ⟨next, all, run⟩ | stopped
  · refine .inl ⟨options.finish next, ⟨fun field => ?_, ?_, ?_⟩, run⟩
    · exact (all.replaced field field.mem_reading).congr (fun _ => rfl)
        (options.get_finish next field)
    · rw [← all.align]
      rfl
    · rw [← all.seed]
      rfl
  · exact .inr stopped

/-- The edit succeeds with these parameters exactly if all that was given has
been put among them. -/
theorem override_eq_ok_iff {result : Config} :
    options.override config = (.ok (), result) ↔ Applied options config result := by
  rcases override_cases options config with
    ⟨reached, applied, run⟩ | ⟨before, field, error, reached, failure, partly, run⟩
  · rw [run]
    constructor
    · intro same
      cases same
      exact applied
    · intro again
      rw [applied.unique again]
  · rw [run]
    constructor
    · intro same
      cases same
    · intro applied
      exact absurd (applied.reads field) failure.not_reads

/-- The edit fails exactly if a text cannot be read.  The complaint is about
the first of these, and what comes before it has been replaced. -/
theorem override_eq_error_iff {error : ParameterError} {result : Config} :
    options.override config = (.error error, result) ↔
      ∃ before field, FirstFailure options Field.reading before field error ∧
        PartlyApplied options before config result := by
  rcases override_cases options config with
    ⟨reached, applied, run⟩ | ⟨before, field, error', reached, failure, partly, run⟩
  · rw [run]
    constructor
    · intro same
      cases same
    · rintro ⟨before, field, failure, -⟩
      exact absurd (applied.reads field) failure.not_reads
  · rw [run]
    constructor
    · intro same
      cases same
      exact ⟨before, field, failure, partly⟩
    · rintro ⟨before', field', again, partly'⟩
      obtain ⟨rfl, rfl⟩ := failure.unique again
      rw [partly.unique partly']

-- What was read before a text that cannot be read is in place.
example :
    let options : Options :=
      { maxAddress := some "1k", blockSize := some "four", sequentialBlocks := some "0",
        align := true }
    options.override { maxAddress := 1000, instructionCount := 100 } =
      (.error (.notANumber .blockSize "four"), { maxAddress := 1024, instructionCount := 100 }) := by
  decide +kernel

/-- The edit succeeds exactly if every text can be read. -/
theorem override_succeeds_iff :
    (options.override config).1 = .ok () ↔ ∀ field, options.Reads field := by
  rcases override_cases options config with
    ⟨reached, applied, run⟩ | ⟨before, field, error, reached, failure, partly, run⟩
  · rw [run]
    exact iff_of_true rfl applied.reads
  · rw [run]
    refine iff_of_false ?_ fun reads => failure.not_reads (reads field)
    intro same
    cases same

end Options

/-! ### Edits after edits -/

section

variable {options later : Options} {config middle result : Config}

/-- What is in its place already stays there. -/
theorem Applied.again (applied : Applied options config result) :
    Applied options result result where
  replaced field :=
    (applied.replaced field).congr
      (fun given => (replaced_of_not_given given).1 (applied.replaced field)) rfl
  align := by rw [applied.align, ← Bool.or_assoc, Bool.or_self]
  seed := by rw [applied.seed]; cases options.seed <;> rfl

/-- Two edits, one after the other, are one. -/
theorem Applied.trans (first : Applied options config middle)
    (second : Applied later middle result) :
    Applied (later.onTopOf options) config result where
  replaced := by
    intro field
    have second := second.replaced field
    cases given : later.given field with
    | some text =>
        have both : (later.onTopOf options).given field = some text := by
          rw [Options.given_onTopOf, given]
          rfl
        rw [replaced_of_given given] at second
        rwa [replaced_of_given both]
    | none =>
        have both : (later.onTopOf options).given field = options.given field := by
          rw [Options.given_onTopOf, given]
          rfl
        rw [replaced_of_not_given given] at second
        unfold Replaced
        rw [both]
        exact (first.replaced field).congr (fun _ => rfl) second
  align := by
    rw [second.align, first.align, ← Bool.or_assoc]
    rfl
  seed := by
    rw [second.seed, first.seed]
    change _ = ((later.seed <|> options.seed) <|> config.seed)
    cases later.seed <;> rfl

end

/-! ### On top of a file -/

/-- A configuration from a file with the options in place, in both of its
parts. -/
structure Merged (options : Options) (base merged : RunConfig) : Prop where
  trace : Applied options base.trace merged.trace
  traceFile : merged.output.traceFile = options.output.getD base.output.traceFile
  jsonReport : merged.output.jsonReport = (options.jsonReport <|> base.output.jsonReport)

/-- Configurations that differ at most where options take the place of what
they have. -/
structure AgreeElsewhere (options : Options) (base other : RunConfig) : Prop where
  values : ∀ field, options.given field = none → base.trace.get field = other.trace.get field
  align : options.align = false → base.trace.alignToBlockSize = other.trace.alignToBlockSize
  seed : options.seed = none → base.trace.seed = other.trace.seed
  traceFile : options.output = none → base.output.traceFile = other.output.traceFile
  jsonReport : options.jsonReport = none → base.output.jsonReport = other.output.jsonReport

section

variable {options later : Options} {base other middle merged : RunConfig}

theorem Merged.again (placed : Merged options base merged) : Merged options merged merged where
  trace := placed.trace.again
  traceFile := by rw [placed.traceFile]; cases options.output <;> rfl
  jsonReport := by rw [placed.jsonReport]; cases options.jsonReport <;> rfl

theorem Merged.trans (first : Merged options base middle) (second : Merged later middle merged) :
    Merged (later.onTopOf options) base merged where
  trace := first.trace.trans second.trace
  traceFile := by
    rw [second.traceFile, first.traceFile]
    change _ = (later.output <|> options.output).getD _
    cases later.output <;> rfl
  jsonReport := by
    rw [second.jsonReport, first.jsonReport]
    change _ = ((later.jsonReport <|> options.jsonReport) <|> _)
    cases later.jsonReport <;> rfl

/-- What the options replace does not matter. -/
theorem Merged.of_agreeElsewhere (placed : Merged options other merged)
    (agree : AgreeElsewhere options base other) : Merged options base merged where
  trace :=
    { replaced := fun field =>
        (placed.trace.replaced field).congr (agree.values field) rfl
      align := by
        rw [placed.trace.align]
        cases given : options.align with
        | true => rfl
        | false => rw [agree.align given]
      seed := by
        rw [placed.trace.seed]
        cases given : options.seed with
        | some seed => rfl
        | none => rw [agree.seed given] }
  traceFile := by
    rw [placed.traceFile]
    cases given : options.output with
    | some path => rfl
    | none => rw [agree.traceFile given]
  jsonReport := by
    rw [placed.jsonReport]
    cases given : options.jsonReport with
    | some path => rfl
    | none => rw [agree.jsonReport given]

namespace Options

theorem merge_of_override {result : Config}
    (run : options.override base.trace = (.ok (), result)) :
    options.merge base = .ok { trace := result, output := options.overrideOutput base.output } := by
  unfold merge overrideAll
  rw [run]
  rfl

theorem merge_of_override_error {error : ParameterError} {result : Config}
    (run : options.override base.trace = (.error error, result)) :
    options.merge base = .error error := by
  unfold merge overrideAll
  rw [run]
  rfl

theorem merge_eq_ok_iff : options.merge base = .ok merged ↔ Merged options base merged := by
  rcases override_cases options base.trace with
    ⟨reached, applied, run⟩ | ⟨before, field, error, reached, failure, partly, run⟩
  · rw [merge_of_override run]
    constructor
    · intro same
      cases same
      exact ⟨applied, rfl, rfl⟩
    · rintro ⟨again, traceFile, jsonReport⟩
      obtain ⟨trace, output⟩ := merged
      obtain rfl : reached = trace := applied.unique again
      obtain rfl : options.overrideOutput base.output = output := by
        cases output
        cases traceFile
        cases jsonReport
        rfl
      rfl
  · rw [merge_of_override_error run]
    constructor
    · intro same
      cases same
    · intro placed
      exact absurd (placed.trace.reads field) failure.not_reads

/-- Whether a merge fails, and how, does not depend on the file at all. -/
theorem merge_eq_error_iff {error : ParameterError} :
    options.merge base = .error error ↔
      ∃ before field, FirstFailure options Field.reading before field error := by
  rcases override_cases options base.trace with
    ⟨reached, applied, run⟩ | ⟨before, field, error', reached, failure, partly, run⟩
  · rw [merge_of_override run]
    constructor
    · intro same
      cases same
    · rintro ⟨before, field, failure⟩
      exact absurd (applied.reads field) failure.not_reads
  · rw [merge_of_override_error run]
    constructor
    · intro same
      cases same
      exact ⟨before, field, failure⟩
    · rintro ⟨before', field', again⟩
      rw [(failure.unique again).2]

theorem merge_congr (agree : AgreeElsewhere options base other) :
    options.merge base = options.merge other := by
  cases outcome : options.merge other with
  | ok merged =>
      rw [merge_eq_ok_iff] at outcome ⊢
      exact outcome.of_agreeElsewhere agree
  | error error =>
      rw [merge_eq_error_iff] at outcome ⊢
      exact outcome

end Options

end

/-! ### Precedence -/

namespace Options

/-- How options take precedence over parameters, and over the parameters and
the targets of a file. -/
structure Precedence (options : Options) : Prop where
  succeeds : ∀ config,
    (options.override config).1 = .ok () ↔ ∀ field, options.Reads field
  applied : ∀ config result,
    options.override config = (.ok (), result) ↔ Applied options config result
  stopped : ∀ config error result,
    options.override config = (.error error, result) ↔
      ∃ before field, FirstFailure options Field.reading before field error ∧
        PartlyApplied options before config result
  idempotent : ∀ config result,
    options.override config = (.ok (), result) → options.override result = (.ok (), result)
  composed : ∀ (later : Options) config middle result,
    options.override config = (.ok (), middle) → later.override middle = (.ok (), result) →
      (later.onTopOf options).override config = (.ok (), result)
  merged : ∀ base merged, options.merge base = .ok merged ↔ Merged options base merged
  mergeFails : ∀ base error,
    options.merge base = .error error ↔
      ∃ before field, FirstFailure options Field.reading before field error
  mergeIdempotent : ∀ base merged,
    options.merge base = .ok merged → options.merge merged = .ok merged
  mergeComposed : ∀ (later : Options) base middle merged,
    options.merge base = .ok middle → later.merge middle = .ok merged →
      (later.onTopOf options).merge base = .ok merged
  independent : ∀ base other,
    AgreeElsewhere options base other → options.merge base = options.merge other

/-- Options take the place of what was there before, all of them or those
before the first with a text that cannot be read.  Doing so again changes
nothing, doing so with other options is doing it once with both, and what a
file has in their place does not matter. -/
theorem precedence (options : Options) : options.Precedence where
  succeeds _ := override_succeeds_iff
  applied _ _ := override_eq_ok_iff
  stopped _ _ _ := override_eq_error_iff
  idempotent := by
    intro config result run
    rw [override_eq_ok_iff] at run ⊢
    exact run.again
  composed := by
    intro later config middle result first second
    rw [override_eq_ok_iff] at first second ⊢
    exact first.trans second
  merged _ _ := merge_eq_ok_iff
  mergeFails _ _ := merge_eq_error_iff
  mergeIdempotent := by
    intro base merged run
    rw [merge_eq_ok_iff] at run ⊢
    exact run.again
  mergeComposed := by
    intro later base middle merged first second
    rw [merge_eq_ok_iff] at first second ⊢
    exact first.trans second
  independent _ _ := merge_congr

/-- Options with all sorts of values on top of a file, with others on top of
them, and on top of a file that differs in a value that does not matter. -/
theorem precedence_twice :
    let options : Options :=
      { output := some "a.trace", instructions := some "250", readSequentialPercent := some "25",
        align := true, seed := some 7 }
    let later : Options := { instructions := some " 3 ", writePercent := some "100" }
    let base : RunConfig := { trace := { maxAddress := 1000, instructionCount := 100 } }
    let other : RunConfig := { trace := { maxAddress := 1000, instructionCount := 5 } }
    ∃ middle merged,
      options.merge base = .ok middle ∧ options.merge middle = .ok middle ∧
      later.merge middle = .ok merged ∧ merged.trace.instructionCount = 3 ∧
      merged.trace.writeRatio = .hundred ∧
      merged.trace.readSequentialFraction = .ofNat 1 / .ofNat 4 ∧
      merged.trace.alignToBlockSize = true ∧ merged.trace.seed = some 7 ∧
      merged.output.traceFile = "a.trace" ∧
      (later.onTopOf options).merge base = .ok merged ∧
      AgreeElsewhere options other base ∧ options.merge other = .ok middle := by
  intro options later base other
  have laws := precedence options
  let middle : RunConfig :=
    { trace :=
        { maxAddress := 1000, instructionCount := 250, alignToBlockSize := true, seed := some 7
          readSequentialFraction := .ofNat 25 / .hundred }
      output := { traceFile := "a.trace" } }
  let merged : RunConfig :=
    { middle with
      trace := { middle.trace with instructionCount := 3, writeRatio := .hundred } }
  have first : options.merge base = .ok middle := by decide +kernel
  have second : later.merge middle = .ok merged := by decide +kernel
  have hundred : merged.trace.writeRatio = .hundred := by dsimp only [merged]
  have quarter : merged.trace.readSequentialFraction = .ofNat 1 / .ofNat 4 := by decide +kernel
  have agree : AgreeElsewhere options other base := by
    refine ⟨fun field => ?_, nofun, nofun, nofun, fun _ => rfl⟩
    cases field <;> first | exact fun _ => rfl | exact nofun
  exact ⟨middle, merged, first, laws.mergeIdempotent _ _ first, second, rfl, hundred, quarter, rfl,
    rfl, rfl, laws.mergeComposed _ _ _ _ first second, agree,
    (laws.independent _ _ agree).trans first⟩

end Options
end AccessTrace
