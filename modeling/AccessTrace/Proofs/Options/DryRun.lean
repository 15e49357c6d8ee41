/-
Module: AccessTrace.Proofs.Options.DryRun
Purpose: The switch for a dry run changes nothing else about how arguments are read.
Main exports:
  Planning, Mirrors, Mirrors.bind, Mirrors.onArgument, Mirrors.ofArgumentsFrom,
  Options.ofArguments_dryRun
-/
import Mathlib
import AccessTrace.Options.Arguments

namespace AccessTrace

open AccessTrace.Text

/-!
Arguments are read in steps.  A step mirrors a plan if it does the same where
the switch for a dry run has been read before: as long as the switch does not
come again, the step gives the same with the switch on.  Every step of the
reader mirrors a plan, and so does the whole reader.
-/

/-- Values that know whether a run is only planned. -/
class Planning (α : Type) where
  /-- Whether the run is only planned. -/
  isPlan : α → Bool
  /-- The same for a run that is only planned. -/
  asPlan : α → α

open Planning (isPlan asPlan)

instance : Planning Options where
  isPlan options := options.dryRun
  asPlan options := { options with dryRun := true }

instance : Planning ArgumentState where
  isPlan state := state.options.dryRun
  asPlan state := { state with options := asPlan state.options }

variable {σ τ υ : Type} [Planning σ] [Planning τ] [Planning υ]

/-- A step that gives a run that is to be carried out comes from one, and gives
the plan of it where it starts from the plan. -/
def Mirrors (step : σ → Except Stop τ) : Prop :=
  ∀ start result, step start = .ok result → isPlan result = false →
    isPlan start = false ∧ step (asPlan start) = .ok (asPlan result)

namespace Mirrors

theorem pure {value : σ → τ} (same : ∀ start, isPlan (value start) = isPlan start)
    (mirrored : ∀ start, value (asPlan start) = asPlan (value start)) :
    Mirrors fun start => .ok (value start) := by
  intro start result given real
  cases given
  rw [same] at real
  refine ⟨real, ?_⟩
  simp only
  rw [mirrored]

theorem error (stop : Stop) : Mirrors fun _ : σ => (.error stop : Except Stop τ) := by
  intro start result given
  cases given

theorem bind {first : σ → Except Stop τ} {next : τ → Except Stop υ} (one : Mirrors first)
    (two : Mirrors next) : Mirrors fun start => first start >>= next := by
  intro start result given real
  cases started : first start with
  | error stop =>
      simp only [started] at given
      cases given
  | ok between =>
      simp only [started] at given
      obtain ⟨realBetween, mirroredEnd⟩ := two between result given real
      obtain ⟨realStart, mirroredStart⟩ := one start between started realBetween
      refine ⟨realStart, ?_⟩
      simp only [mirroredStart]
      exact mirroredEnd

theorem ite {condition : σ → Prop} [DecidablePred condition] {first second : σ → Except Stop τ}
    (same : ∀ start, condition (asPlan start) ↔ condition start) (one : Mirrors first)
    (two : Mirrors second) :
    Mirrors fun start => if condition start then first start else second start := by
  intro start result given real
  simp only at given ⊢
  by_cases holds : condition start
  · rw [if_pos holds] at given
    rw [if_pos ((same start).2 holds)]
    exact one start result given real
  · rw [if_neg holds] at given
    rw [if_neg (mt (same start).1 holds)]
    exact two start result given real

/-! ### Options -/

theorem put (value : String) (setting : Setting) :
    Mirrors fun options : Options => options.put value setting := by
  cases setting with
  | seed =>
      unfold Options.put
      cases Options.readSeed? value with
      | none => exact error _
      | some seed => exact pure (fun _ => rfl) (fun _ => rfl)
  | _ => exact pure (fun _ => rfl) (fun _ => rfl)

theorem give (setting : Setting) (value : String) :
    Mirrors fun options : Options => options.give setting value := by
  have has_asPlan (options : Options) : (asPlan options).has setting = options.has setting := by
    cases setting <;> rfl
  unfold Options.give
  apply ite
  · intro options
    rw [has_asPlan]
  · exact error _
  · apply ite
    · intro options
      exact Iff.rfl
    · exact error _
    · exact put value setting

/-- The switch for a dry run cannot come a second time. -/
theorem turnOn (switch : Switch) : Mirrors fun options : Options => options.turnOn switch := by
  cases switch with
  | align =>
      unfold Options.turnOn
      apply ite
      · intro options
        exact Iff.rfl
      · exact error _
      · exact pure (fun _ => rfl) (fun _ => rfl)
  | verbose =>
      unfold Options.turnOn
      apply ite
      · intro options
        exact Iff.rfl
      · exact error _
      · exact pure (fun _ => rfl) (fun _ => rfl)
  | dryRun =>
      -- What the switch gives is a plan, so that there is nothing to mirror.
      intro options result given real
      simp only [Options.turnOn] at given
      split at given
      · cases given
      · cases given
        cases real
  | help => exact error _
  | version => exact error _

/-! ### Arguments -/

theorem settle : Mirrors ArgumentState.settle := by
  intro state options given real
  obtain ⟨read, pending⟩ := state
  match pending with
  | none =>
      cases given
      exact ⟨real, rfl⟩
  | some (setting, none) => cases given
  | some (setting, some value) => exact give setting value read options given real

theorem onSetting (setting : Setting) (attached : Option String) :
    Mirrors fun state : ArgumentState => state.onSetting setting attached := by
  unfold ArgumentState.onSetting
  apply settle.bind
  cases attached with
  | none => exact pure (fun _ => rfl) (fun _ => rfl)
  | some value =>
      apply (give setting value).bind
      exact pure (fun _ => rfl) (fun _ => rfl)

theorem onSwitch (switch : Switch) :
    Mirrors fun state : ArgumentState => state.onSwitch switch := by
  unfold ArgumentState.onSwitch
  apply settle.bind
  apply (turnOn switch).bind
  exact pure (fun _ => rfl) (fun _ => rfl)

theorem onLong (text : List Char) : Mirrors fun state : ArgumentState => state.onLong text := by
  unfold ArgumentState.onLong
  simp only
  cases OptionName.ofLong? (String.ofList (text.takeWhile (· != '='))) with
  | none => exact error _
  | some name =>
      cases name with
      | setting setting => exact onSetting setting _
      | switch switch =>
          cases text.dropWhile (· != '=') with
          | nil => exact onSwitch switch
          | cons equals value => exact error _

theorem onShort (text : List Char) : Mirrors fun state : ArgumentState => state.onShort text := by
  induction text with
  | nil => exact pure (fun _ => rfl) (fun _ => rfl)
  | cons letter rest ih =>
      unfold ArgumentState.onShort
      cases OptionName.ofShort? letter with
      | none => exact error _
      | some name =>
          cases name with
          | setting setting => exact onSetting setting _
          -- The letters behind a switch are read in the state that it leaves.
          | switch switch => exact (onSwitch switch).bind ih

theorem onPlain (argument : String) :
    Mirrors fun state : ArgumentState => state.onPlain argument := by
  intro state result given real
  obtain ⟨read, pending⟩ := state
  match pending with
  | none => cases given
  | some (setting, some value) => cases given
  | some (setting, none) =>
      cases given
      exact ⟨real, rfl⟩

theorem onArgument (argument : String) :
    Mirrors fun state : ArgumentState => state.onArgument argument := by
  unfold ArgumentState.onArgument
  split
  · exact onLong _
  · exact onPlain argument
  · apply ite
    · intro state
      exact Iff.rfl
    · exact onPlain argument
    · exact onShort _
  · exact onPlain argument

theorem ofArgumentsFrom (arguments : List String) :
    Mirrors fun state => Options.ofArgumentsFrom state arguments := by
  induction arguments with
  | nil => exact settle
  | cons argument arguments ih =>
      unfold Options.ofArgumentsFrom
      split
      · cases arguments with
        | nil => exact settle
        | cons extra others => exact error _
      · exact (onArgument argument).bind ih

end Mirrors

/-- Arguments for a run that is carried out make the options of its plan with
the switch for a dry run in front of them. -/
theorem Options.ofArguments_dryRun {arguments : List String} {options : Options}
    (parsed : Options.ofArguments arguments = .ok options) (real : options.dryRun = false) :
    Options.ofArguments ("--dry-run" :: arguments) = .ok { options with dryRun := true } := by
  obtain ⟨-, mirrored⟩ := Mirrors.ofArgumentsFrom arguments {} options parsed real
  have first : ArgumentState.onArgument {} "--dry-run" = .ok (asPlan {}) := by decide +kernel
  unfold Options.ofArguments Options.ofArgumentsFrom
  rw [if_neg (by decide), first]
  exact mirrored

end AccessTrace
