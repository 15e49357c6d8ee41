/-
Module: AccessTrace.Proofs.Program.Settled
Purpose: How the configuration of a run is settled, and the steps in which a run fails.
Main exports:
  Options.settled, Options.Unsettled, Options.settled_eq_error_iff, Failure.AfterTrace
-/
import Mathlib
import AccessTrace.Program.Run

namespace AccessTrace

/-!
A configuration is settled from options and perhaps one file.  It is not
settled if the file cannot be used or a text among the options cannot.  Such a
failure is told from one after the trace by the step that it happened in.
-/

/-- The configuration that options and the files of a session settle. -/
def Options.settled (options : Options) (tree : FileTree) : Except Failure RunConfig :=
  match options.config with
  | some path => do
    let base ← ConfigFile.decode path (tree.read path)
    (options.merge base).mapError Program.failureOf
  | none =>
    Failure.during Program.parameterStep do
      let trace ← options.toConfig.mapError Program.failureOf
      return { trace, output := options.overrideOutput {} }

/-- Why no configuration can be settled: the file that was named cannot be used,
or a text that was given cannot. -/
inductive Options.Unsettled (options : Options) (tree : FileTree) : Failure → Prop
  | file {path : String} {failure : Failure} (named : options.config = some path)
      (unusable : ConfigFile.decode path (tree.read path) = .error failure) :
      Unsettled options tree failure
  | override {path : String} {base : RunConfig} {error : ParameterError}
      (named : options.config = some path)
      (usable : ConfigFile.decode path (tree.read path) = .ok base)
      (malformed : options.merge base = .error error) :
      Unsettled options tree (Program.failureOf error)
  | alone {error : ParameterError} (unnamed : options.config = none)
      (malformed : options.toConfig = .error error) :
      Unsettled options tree ((Program.failureOf error).within Program.parameterStep)

namespace Options
variable {options : Options} {tree : FileTree}

theorem settled_of_named {path : String} (named : options.config = some path) :
    options.settled tree =
      match ConfigFile.decode path (tree.read path) with
      | .error failure => .error failure
      | .ok base =>
        match options.merge base with
        | .error error => .error (Program.failureOf error)
        | .ok run => .ok run := by
  unfold settled
  rw [named]
  simp only
  cases ConfigFile.decode path (tree.read path) with
  | error failure => rfl
  | ok base =>
      simp only
      change (options.merge base).mapError Program.failureOf = _
      cases options.merge base with
      | error error => rfl
      | ok run => rfl

theorem settled_of_unnamed (unnamed : options.config = none) :
    options.settled tree =
      match options.toConfig with
      | .error error => .error ((Program.failureOf error).within Program.parameterStep)
      | .ok trace => .ok { trace, output := options.overrideOutput {} } := by
  unfold settled
  rw [unnamed]
  cases options.toConfig with
  | error error => rfl
  | ok trace => rfl

theorem settled_eq_error_iff (failure : Failure) :
    options.settled tree = .error failure ↔ options.Unsettled tree failure := by
  constructor
  · intro failed
    cases named : options.config with
    | none =>
        rw [settled_of_unnamed named] at failed
        cases malformed : options.toConfig with
        | error error =>
            rw [malformed] at failed
            cases failed
            exact .alone named malformed
        | ok trace =>
            rw [malformed] at failed
            cases failed
    | some path =>
        rw [settled_of_named named] at failed
        cases usable : ConfigFile.decode path (tree.read path) with
        | error error =>
            rw [usable] at failed
            cases failed
            exact .file named usable
        | ok base =>
            cases malformed : options.merge base with
            | error error =>
                simp only [usable, malformed] at failed
                cases failed
                exact .override named usable malformed
            | ok run =>
                simp only [usable, malformed] at failed
                cases failed
  · intro unsettled
    cases unsettled with
    | file named unusable => rw [settled_of_named named, unusable]
    | override named usable malformed =>
        rw [settled_of_named named]
        simp only [usable, malformed]
    | alone unnamed malformed => rw [settled_of_unnamed unnamed, malformed]

end Options

/-! ### Steps of a failure -/

/-- The steps that a run takes with its trace. -/
def Failure.sinkSteps : List String :=
  ["Failed to write trace file", "Trace file verification failed", "Failed to write JSON report"]

/-- A failure once the trace was there. -/
def Failure.AfterTrace (failure : Failure) : Prop :=
  ∃ step ∈ sinkSteps, failure.steps.head? = some step

/-- A file that cannot be used fails in a step that names it. -/
theorem ConfigFile.steps_of_decode {path : String} {content : Except ReadFailure ByteArray}
    {failure : Failure} (unusable : ConfigFile.decode path content = .error failure) :
    failure.steps.head? = some ("Failed to read config file: " ++ path) ∨
      failure.steps.head? = some ("Failed to parse config file: " ++ path) := by
  unfold ConfigFile.decode at unusable
  split at unusable
  · cases unusable
    exact .inl rfl
  · split at unusable
    · cases unusable
      exact .inl rfl
    · rename_i text _
      cases parsed : ConfigFile.parse text with
      | error reason =>
          rw [parsed] at unusable
          cases unusable
          exact .inr rfl
      | ok run =>
          rw [parsed] at unusable
          cases unusable

/-- Settling a configuration comes before the trace. -/
theorem Options.Unsettled.not_afterTrace {options : Options} {tree : FileTree} {failure : Failure}
    (unsettled : options.Unsettled tree failure) : ¬ failure.AfterTrace := by
  rintro ⟨step, late, first⟩
  cases unsettled with
  | file named unusable =>
      rcases ConfigFile.steps_of_decode unusable with early | early
      · rw [early] at first
        cases first
        simp [Failure.sinkSteps, ← String.toList_inj] at late
      · rw [early] at first
        cases first
        simp [Failure.sinkSteps, ← String.toList_inj] at late
  | override => cases first
  | alone =>
      cases first
      exact absurd late (by decide)

end AccessTrace
