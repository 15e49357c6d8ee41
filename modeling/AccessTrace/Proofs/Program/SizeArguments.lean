/-
Module: AccessTrace.Proofs.Program.SizeArguments
Purpose: Which accepted sizes come through the command line to the reader of sizes.
Main exports:
  Misread, ArgumentState.onArgument_of_not_misread, ArgumentState.onArgument_of_misread,
  SizeOption, Delivered, accepted_size_delivered_iff
-/
import Mathlib
import AccessTrace.Proofs.Config.Sources
import AccessTrace.Proofs.Parameter.Grammar
import AccessTrace.Proofs.Program.Course

namespace AccessTrace

open AccessTrace.Text
open Parameter (Accepted Tolerated SizeUnit)

/-!
The value of a size stands behind its option as an argument of its own.  If it
starts with a dash, the command line takes it for a value only if digits alone
follow.  The reader of sizes accepts more behind a dash, namely blanks and the
ending of a unit.  A negative size with one of these is taken for options, of
which the digit behind the dash is the first one and unknown.  Every other
accepted text comes through as it is.
-/

/-! ### Accepted texts with a dash in front -/

/-- A text that the command line takes for options although it can be a size: a
dash, and behind it something that is not a digit. -/
def Misread (value : String) : Prop :=
  ∃ rest, value.toList = '-' :: rest ∧ rest.all Char.isDigit = false

/-- What is reported of a text that is misread: the dash, and the character behind it. -/
def reportedOf (value : String) : String :=
  String.ofList (value.toList.take 2)

/-- A character that can belong to no number behind a dash. -/
def Foreign (c : Char) : Prop :=
  c.isDigit = false ∧ c ≠ '.' ∧ c ≠ 'e' ∧ c ≠ 'E'

theorem foreign_of_isBlank {c : Char} (blank : isBlank c = true) : Foreign c := by
  refine ⟨?_, ?_, ?_, ?_⟩
  · rw [Bool.eq_false_iff]
    intro digit
    rw [isBlank_of_isDigit digit] at blank
    cases blank
  all_goals
    rintro rfl
    exact absurd blank (by decide)

theorem foreign_of_mem_ending {unit : Option SizeUnit} {ending : List Char}
    (ends : Tolerated unit ending) {c : Char} (member : c ∈ ending) : Foreign c := by
  cases ends with
  | bare => cases member
  | @repeated unit _ singles pairs nonempty letters =>
      have lowered : Parameter.lowerLetter c = unit.letter ∨ Parameter.lowerLetter c = 'b' := by
        apply SizeUnit.mem_run
        rw [← letters]
        exact List.mem_map_of_mem member
      -- None of the foreign characters becomes the letter of a unit or `b`.
      have other {d : Char} (isD : Parameter.lowerLetter c = d)
          (noUnit : SizeUnit.ofLetter? d = none) (noB : d ≠ 'b') : False := by
        rcases lowered with letter | b
        · rw [Parameter.SizeUnit.ofLetter?_eq_some_iff.2 (isD.symm.trans letter)] at noUnit
          cases noUnit
        · exact noB (isD.symm.trans b)
      refine ⟨?_, ?_, ?_, ?_⟩
      · rw [Bool.eq_false_iff]
        intro digit
        refine other (Parameter.lowerLetter_of_isDigit digit)
          (Parameter.ofLetter?_of_isDigit digit) ?_
        rintro rfl
        exact absurd digit (by decide)
      · rintro rfl
        exact other (d := '.') (by decide) (by decide) (by decide)
      · rintro rfl
        exact other (d := 'e') (by decide) (by decide) (by decide)
      · rintro rfl
        exact other (d := 'e') (by decide) (by decide) (by decide)

/-- Behind the dash of an accepted text there are digits, and then nothing that
can belong to a number. -/
theorem exists_digits_of_accepted {field : Field} {value : String} {rest : List Char}
    (accepted : Accepted field value) (dash : value.toList = '-' :: rest) :
    ∃ digit digits tail, rest = digit :: digits ++ tail ∧
      (∀ c ∈ digit :: digits, c.isDigit = true) ∧ ∀ c ∈ tail, Foreign c := by
  obtain ⟨form, trimmed, -⟩ := (Parameter.accepted_iff field value).1 accepted
  obtain ⟨before, after, around, blankBefore, blankAfter⟩ := exists_surrounded value.toList
  obtain ⟨number, between, unit, ending, blank, ends⟩ := form
  rw [trimmed, dash] at around
  have none : before = [] := by
    cases before with
    | nil => rfl
    | cons c others =>
        rw [List.cons_append, List.cons_append, List.cons.injEq] at around
        have noBlank := blankBefore c List.mem_cons_self
        rw [← around.1] at noBlank
        exact absurd noBlank (by decide)
  subst none
  obtain ⟨digit, digits, written, -⟩ := number.exists_first
  have isDigit := number.isDigit
  rw [written] at isDigit
  have minus : number.sign = .minus := by
    cases sign : number.sign with
    | minus => rfl
    | plus => simp [Parameter.SizeForm.text, Numeral.Signed.text, sign, Numeral.Sign.text] at around
    | absent =>
        simp only [Parameter.SizeForm.text, Numeral.Signed.text, sign, Numeral.Sign.text, written,
          List.nil_append, List.cons_append, List.cons.injEq] at around
        have first := isDigit digit List.mem_cons_self
        rw [← around.1] at first
        exact absurd first (by decide)
  refine ⟨digit, digits, between ++ ending ++ after, ?_, isDigit, ?_⟩
  · simpa [Parameter.SizeForm.text, Numeral.Signed.text, minus, Numeral.Sign.text, written]
      using around
  · intro c member
    rcases List.mem_append.1 member with inside | behind
    · rcases List.mem_append.1 inside with isBetween | inEnding
      · exact foreign_of_isBlank (blank c isBetween)
      · exact foreign_of_mem_ending ends inEnding
    · exact foreign_of_isBlank (blankAfter c behind)

/-! ### One argument -/

namespace ArgumentState

theorem isNumberFrom_append {digits : List Char} (allDigits : ∀ c ∈ digits, c.isDigit = true)
    (first seenPoint seenExponent : Bool) (tail : List Char) :
    isNumberFrom first seenPoint seenExponent (digits ++ tail) =
      isNumberFrom (first && digits.isEmpty) seenPoint seenExponent tail := by
  induction digits generalizing first with
  | nil => simp
  | cons c digits ih =>
      obtain ⟨digit, others⟩ := List.forall_mem_cons.1 allDigits
      rw [List.cons_append, isNumberFrom, if_pos digit, ih others]
      simp

/-- Digits and something foreign behind them are a number only without the latter. -/
theorem isNumberFrom_of_foreign {digits tail : List Char}
    (allDigits : ∀ c ∈ digits, c.isDigit = true) (foreign : ∀ c ∈ tail, Foreign c) :
    isNumberFrom true false false (digits ++ tail) = (digits ++ tail).all Char.isDigit := by
  rw [isNumberFrom_append allDigits, List.all_append, List.all_eq_true.2 allDigits, Bool.true_and,
    Bool.true_and]
  cases tail with
  | nil => rfl
  | cons c tail =>
      obtain ⟨noDigit, noPoint, noSmall, noCapital⟩ := foreign c List.mem_cons_self
      rw [isNumberFrom, if_neg (by simp [noDigit]), if_neg noPoint,
        if_neg (by simp [noSmall, noCapital]), List.all_cons, noDigit, Bool.false_and]

/-- No option has a digit for its letter. -/
theorem ofShort?_of_isDigit {c : Char} (digit : c.isDigit = true) :
    OptionName.ofShort? c = none := by
  rw [OptionName.ofShort?, List.find?_eq_none]
  intro name _ found
  have letter : name.short? = some c := eq_of_beq found
  have noDigit : ∀ d, name.short? = some d → d.isDigit = false := by
    cases name with
    | setting setting => cases setting <;> rintro d ⟨⟩ <;> decide
    | switch switch => cases switch <;> rintro d ⟨⟩ <;> decide
  rw [noDigit c letter] at digit
  cases digit

variable {options : Options} {setting : Setting} {field : Field} {value : String}

theorem takesNumber_waiting (takes : setting.takesNegative = true) (text : List Char) :
    takesNumber { options, pending := some (setting, none) } text =
      isNumberFrom true false false text := by
  rw [takesNumber]
  simp [takes]

/-- An accepted text that is not misread becomes the value of the option in front of it. -/
theorem onArgument_of_not_misread (takes : setting.takesNegative = true)
    (accepted : Accepted field value) (read : ¬ Misread value) :
    onArgument { options, pending := some (setting, none) } value =
      .ok { options, pending := some (setting, some value) } := by
  unfold onArgument
  split
  · rename_i text dashes
    obtain ⟨digit, digits, tail, rest, isDigit, -⟩ := exists_digits_of_accepted accepted dashes
    rw [List.cons_append, List.cons.injEq] at rest
    have first := isDigit digit List.mem_cons_self
    rw [← rest.1] at first
    exact absurd first (by decide)
  · rfl
  · rename_i text _ _ dash
    have allDigits : text.all Char.isDigit = true := by
      by_contra other
      exact read ⟨text, dash, by simpa using other⟩
    obtain ⟨digit, digits, tail, rfl, isDigit, foreign⟩ :=
      exists_digits_of_accepted accepted dash
    rw [if_pos]
    · rfl
    · rw [takesNumber_waiting takes, isNumberFrom_of_foreign isDigit foreign, allDigits]
  · rfl

/-- An accepted text that is misread begins with an unknown option. -/
theorem onArgument_of_misread (takes : setting.takesNegative = true)
    (accepted : Accepted field value) (misread : Misread value) :
    onArgument { options, pending := some (setting, none) } value =
      .error (.unknown (reportedOf value)) := by
  obtain ⟨rest, dash, other⟩ := misread
  obtain ⟨digit, digits, tail, rfl, isDigit, foreign⟩ := exists_digits_of_accepted accepted dash
  have first := isDigit digit List.mem_cons_self
  unfold onArgument
  split
  · rename_i text dashes
    rw [dash, List.cons_append] at dashes
    simp only [List.cons.injEq, true_and] at dashes
    rw [dashes.1] at first
    exact absurd first (by decide)
  · rename_i lone
    rw [dash] at lone
    cases lone
  · rename_i text _ _ same
    rw [dash] at same
    cases same
    rw [if_neg]
    · rw [List.cons_append, onShort, ofShort?_of_isDigit first, reportedOf, dash]
      rfl
    · rw [takesNumber_waiting takes, isNumberFrom_of_foreign isDigit foreign, other]
      exact Bool.false_ne_true
  · rename_i noDash
    exact absurd dash (noDash _)

end ArgumentState

/-! ### The options that take sizes -/

/-- The options whose values are sizes. -/
inductive SizeOption where
  | maxAddress
  | blockSize
deriving DecidableEq, Repr

namespace SizeOption

/-- The parameter that an option sets. -/
def field : SizeOption → Field
  | .maxAddress => .maxAddress
  | .blockSize => .blockSize

/-- The option as the command line knows it. -/
def setting : SizeOption → Setting
  | .maxAddress => .maxAddress
  | .blockSize => .blockSize

/-- The option as an argument. -/
def argument : SizeOption → String
  | .maxAddress => "-a"
  | .blockSize => "-b"

/-- The arguments that have to be given besides the option. -/
def others : SizeOption → List String
  | .maxAddress => ["-n", "1"]
  | .blockSize => ["-a", "1", "-n", "1"]

/-- A command line that gives the option a value. -/
def command (option : SizeOption) (value : String) : List String :=
  option.argument :: value :: option.others

/-- The options with the value in its place, as it is. -/
def holding (option : SizeOption) (value : String) : Options :=
  match option with
  | .maxAddress => { maxAddress := some value, instructions := some "1" }
  | .blockSize => { blockSize := some value, maxAddress := some "1", instructions := some "1" }

end SizeOption

/-- A value comes through to the reader of sizes: the command line holds it as it
is, and if it is not positive the run fails with the number of bytes, under the
name of the parameter. -/
structure Delivered (option : SizeOption) (value : String) : Prop where
  held : Options.ofArguments (option.command value) = .ok (option.holding value)
  refused : ∀ (before : Session) (bytes : Int),
    Parameter.readSize option.field value = .error (.notPositive option.field bytes) →
      (before.invoke (option.command value)).1 =
          .failed ⟨["Invalid parameters"], .parameter (.notPositive option.field bytes)⟩ ∧
        (before.invoke (option.command value)).1.exitCode = 1

/-! ### The command line of a size -/

theorem Parameter.Accepted.ne_dashes {field : Field} {value : String}
    (accepted : Accepted field value) : value ≠ "--" := by
  rintro rfl
  have dashes : "--".toList = ['-', '-'] := rfl
  obtain ⟨digit, digits, tail, rest, isDigit, -⟩ := exists_digits_of_accepted accepted dashes
  rw [List.cons_append, List.cons.injEq] at rest
  have first := isDigit digit List.mem_cons_self
  rw [← rest.1] at first
  exact absurd first (by decide)

theorem Options.ofArgumentsFrom_cons {state : ArgumentState} {argument : String}
    (other : argument ≠ "--") (arguments : List String) :
    ofArgumentsFrom state (argument :: arguments) =
      state.onArgument argument >>= fun next => ofArgumentsFrom next arguments := by
  conv_lhs => unfold ofArgumentsFrom
  rw [if_neg other]

namespace SizeOption
variable {option : SizeOption} {value : String}

/-- Reading the command line comes to the value while the option waits for it. -/
theorem ofArguments_command (option : SizeOption) {value : String} (other : value ≠ "--") :
    Options.ofArguments (option.command value) =
      ArgumentState.onArgument { pending := some (option.setting, none) } value >>=
        fun next => Options.ofArgumentsFrom next option.others := by
  rw [← Options.ofArgumentsFrom_cons other]
  cases option <;> rfl

theorem takesNegative_setting (option : SizeOption) : option.setting.takesNegative = true := by
  cases option <;> rfl

theorem ofArguments_of_not_misread (accepted : Accepted option.field value)
    (read : ¬ Misread value) :
    Options.ofArguments (option.command value) = .ok (option.holding value) := by
  rw [ofArguments_command option accepted.ne_dashes,
    ArgumentState.onArgument_of_not_misread option.takesNegative_setting accepted read]
  cases option <;> rfl

theorem ofArguments_of_misread (accepted : Accepted option.field value)
    (misread : Misread value) :
    Options.ofArguments (option.command value) = .error (.unknown (reportedOf value)) := by
  rw [ofArguments_command option accepted.ne_dashes,
    ArgumentState.onArgument_of_misread option.takesNegative_setting accepted misread]
  rfl

/-- A value that cannot be used makes the parameters fail. -/
theorem toConfig_holding {error : ParameterError}
    (refused : Parameter.readSize option.field value = .error error) :
    (option.holding value).toConfig = .error error := by
  have size : Parameter.readSize .maxAddress "1" = .ok 1 := by decide
  have count : Parameter.readCount .instructionCount "1" = .ok 1 := by decide
  rw [Options.toConfig_eq]
  cases option with
  | maxAddress =>
      change (Parameter.readSize .maxAddress value >>= _) = _
      rw [field] at refused
      rw [refused]
      rfl
  | blockSize =>
      change (Parameter.readSize .maxAddress "1" >>= fun _ =>
        Parameter.readCount .instructionCount "1" >>= fun _ =>
          Parameter.readSize .blockSize value >>= _) = _
      rw [field] at refused
      rw [size, count, refused]
      rfl

end SizeOption

theorem Session.invoke_of_unknown (before : Session) {arguments : List String} {argument : String}
    (stopped : Options.ofArguments arguments = .error (.unknown argument)) :
    (before.invoke arguments).1 = .misused (.unknown argument) := by
  unfold invoke Program.start
  rw [stopped]
  rfl

theorem delivered_of_not_misread {option : SizeOption} {value : String}
    (accepted : Accepted option.field value) (read : ¬ Misread value) :
    Delivered option value := by
  have held := SizeOption.ofArguments_of_not_misread accepted read
  refine ⟨held, ?_⟩
  intro before bytes refused
  have unnamed : (option.holding value).config = none := by
    cases option <;> rfl
  have ended : (before.invoke (option.command value)).1 =
      .failed ⟨["Invalid parameters"], .parameter (.notPositive option.field bytes)⟩ := by
    rw [Session.invoke_of_options before held, Program.perform_run,
      Options.settled_of_unnamed unnamed, SizeOption.toConfig_holding refused]
    rfl
  rw [ended]
  exact ⟨rfl, rfl⟩

/-- An accepted size comes through the command line to the reader of sizes exactly
if it is not misread.  One that is misread is reported as an unknown option, by its
dash and the character behind it. -/
theorem accepted_size_delivered_iff (option : SizeOption) {value : String}
    (accepted : Accepted option.field value) :
    (Delivered option value ↔ ¬ Misread value) ∧
      (Misread value →
        Options.ofArguments (option.command value) = .error (.unknown (reportedOf value)) ∧
          ∀ before : Session, (before.invoke (option.command value)).1.exitCode = 2) := by
  have unknown := SizeOption.ofArguments_of_misread accepted
  refine ⟨⟨?_, delivered_of_not_misread accepted⟩, ?_⟩
  · intro delivered misread
    have held := delivered.held
    rw [unknown misread] at held
    cases held
  · intro misread
    refine ⟨unknown misread, fun before => ?_⟩
    rw [before.invoke_of_unknown (unknown misread)]
    rfl

/-- A number behind a dash comes through, and one with a unit behind it does not. -/
theorem accepted_size_delivered_number :
    Accepted .blockSize "-5" ∧ Accepted .maxAddress "-1k" ∧ Delivered .blockSize "-5" ∧
      Options.ofArguments ["-a", "-1k", "-n", "1"] = .error (.unknown "-1") := by
  have number : Accepted .blockSize "-5" := .inr ⟨-5, by decide⟩
  have size : Accepted .maxAddress "-1k" := .inr ⟨-1024, by decide⟩
  refine ⟨number, size, ?_, ?_⟩
  · apply (accepted_size_delivered_iff .blockSize number).1.2
    rintro ⟨rest, dash, other⟩
    cases dash
    exact absurd other (by decide)
  · exact ((accepted_size_delivered_iff .maxAddress size).2 ⟨['1', 'k'], rfl, rfl⟩).1

/-- The reader of sizes accepts a negative size with a unit, and the command line
does not let it through. -/
theorem negative_size_undelivered :
    Parameter.readSize .maxAddress "-1k" = .error (.notPositive .maxAddress (-1024)) ∧
      Options.ofArguments ["-a", "-1k", "-n", "1"] = .error (.unknown "-1") := by
  decide

end AccessTrace
