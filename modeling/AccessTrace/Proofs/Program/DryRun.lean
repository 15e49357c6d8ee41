/-
Module: AccessTrace.Proofs.Program.DryRun
Purpose: Runs that touch no file, and a dry run against the run that it plans.
Main exports:
  Harmless, Completion.PastGeneration, Foretold, dry_run_foretells
-/
import Mathlib
import AccessTrace.Proofs.Interchange.PlanReport
import AccessTrace.Proofs.Options.DryRun
import AccessTrace.Proofs.Program.Stored

namespace AccessTrace

open Session Program

/-!
A run that ends before its trace is complete touches no file, and neither does
a run that is only planned.  A dry run makes the plan that the run would make,
from the same configuration.  It therefore ends well exactly if the run gets
past the generation of its trace.  The quotas on its lines are those on the
lines of the run, and those in the file for other programs.
-/

/-! ### Runs that touch no file -/

/-- A run that ends before it has a trace, or that is only planned. -/
inductive Harmless (before : Session) (arguments : List String) : Prop
  /-- The command line is not accepted. -/
  | rejected {stop : Stop} (stopped : Options.ofArguments arguments = .error stop)
  /-- The configuration file cannot be used, or a text among the options cannot. -/
  | unsettled {options : Options} {failure : Failure}
      (parsed : Options.ofArguments arguments = .ok options)
      (unsettled : options.Unsettled before.tree failure)
  /-- The configuration has no plan. -/
  | unplanned {options : Options} {run : RunConfig} {error : ParameterError}
      (parsed : Options.ofArguments arguments = .ok options)
      (settled : options.settled before.tree = .ok run) (refused : run.trace.plan = .error error)
  /-- The run is only planned. -/
  | dry {options : Options} (parsed : Options.ofArguments arguments = .ok options)
      (dry : options.dryRun = true)

theorem tree_of_harmless {before : Session} {arguments : List String}
    (harmless : Harmless before arguments) : (before.invoke arguments).2.tree = before.tree := by
  cases harmless with
  | rejected stopped => exact tree_invoke_of_stop before stopped
  | unsettled parsed unsettled =>
      rcases tree_of_invoke before parsed with same | ⟨-, run, trace, settled, -⟩
      · exact same
      · rw [(Options.settled_eq_error_iff _).2 unsettled] at settled
        cases settled
  | unplanned parsed settled refused =>
      rcases tree_of_invoke before parsed with same | ⟨-, run, trace, settled', generated⟩
      · exact same
      · rw [settled] at settled'
        cases settled'
        rw [generated_of_refused before refused] at generated
        cases generated
  | dry parsed dry =>
      rcases tree_of_invoke before parsed with same | ⟨real, -⟩
      · exact same
      · rw [dry] at real
        cases real

/-! ### Plans -/

/-- The run got past the generation of its trace. -/
def Completion.PastGeneration : Completion → Prop
  | .done => True
  | .failed failure => failure.AfterTrace
  | .misused _ => False

theorem Session.plan_of_generated {session : Session} {config : Config} {trace : Trace}
    (generated : session.generated config = .ok trace) :
    config.plan = .ok trace.report.planned :=
  plan_of_generate generated

theorem Program.pastGeneration_of_delivery {run : RunConfig} {verbose : Bool} {trace : Trace}
    {before : Session} {outcome : Except Failure Unit × Session}
    (delivery : Delivery run verbose trace before outcome) :
    (Completion.ofResult outcome.1).PastGeneration := by
  cases delivery with
  | refused => exact ⟨"Failed to write trace file", by decide, rfl⟩
  | unverified => exact ⟨"Trace file verification failed", by decide, rfl⟩
  | delivered written right reporting =>
      cases reporting with
      | unasked => trivial
      | written => trivial
      | refused => exact ⟨"Failed to write JSON report", by decide, rfl⟩

section
variable {before : Session} {arguments : List String} {options : Options}

/-- A dry run with a plan ends well and shows the plan. -/
theorem invoke_dry (parsed : Options.ofArguments arguments = .ok options)
    (dry : options.dryRun = true) {run : RunConfig} {quotas : Quotas}
    (settled : options.settled before.tree = .ok run) (accepted : run.trace.plan = .ok quotas) :
    before.invoke arguments = (.done, (announced before run).say (planLines quotas)) := by
  rw [invoke_of_options before parsed, perform_run, settled]
  simp only
  rw [if_pos dry, perform_planOnly, accepted]
  rfl

/-- A dry run ends well exactly if there is a plan. -/
theorem done_dry_iff (parsed : Options.ofArguments arguments = .ok options)
    (dry : options.dryRun = true) :
    (before.invoke arguments).1.exitCode = 0 ↔
      ∃ run quotas, options.settled before.tree = .ok run ∧ run.trace.plan = .ok quotas := by
  constructor
  · intro done
    obtain ⟨outcome, course, ended⟩ := course_of_invoke before parsed
    rw [ended] at done
    cases course with
    | unsettled => cases done
    | unplanned => cases done
    | planned dry settled accepted => exact ⟨_, _, settled, accepted⟩
    | produced real =>
        rw [dry] at real
        cases real
  · rintro ⟨run, quotas, settled, accepted⟩
    rw [invoke_dry parsed dry settled accepted]
    rfl

/-- A run gets past the generation of its trace exactly if there is a plan. -/
theorem pastGeneration_iff (parsed : Options.ofArguments arguments = .ok options)
    (real : options.dryRun = false) :
    (before.invoke arguments).1.PastGeneration ↔
      ∃ run quotas, options.settled before.tree = .ok run ∧ run.trace.plan = .ok quotas := by
  obtain ⟨outcome, course, ended⟩ := course_of_invoke before parsed
  rw [ended]
  cases course with
  | unsettled unsettled =>
      rw [(Options.settled_eq_error_iff _).2 unsettled]
      constructor
      · intro past
        exact absurd past unsettled.not_afterTrace
      · rintro ⟨run, quotas, settled, -⟩
        cases settled
  | unplanned settled refused =>
      constructor
      · intro past
        exact absurd past (not_afterTrace_within_planStep options _)
      · rintro ⟨run, quotas, settled', accepted⟩
        rw [settled] at settled'
        cases settled'
        rw [refused] at accepted
        cases accepted
  | planned dry =>
      rw [dry] at real
      cases real
  | produced real settled generated delivery =>
      constructor
      · intro past
        exact ⟨_, _, settled, plan_of_generated generated⟩
      · intro plan
        exact pastGeneration_of_delivery delivery

end

/-! ### A dry run and its run -/

/-- What a dry run says about the run that it plans. -/
structure Foretold (before : Session) (arguments : List String) (options : Options) : Prop where
  /-- The dry run ends well exactly if the run gets past the generation of its trace. -/
  ends : (before.invoke ("--dry-run" :: arguments)).1.exitCode = 0 ↔
    (before.invoke arguments).1.PastGeneration
  /-- Then the dry run shows the quotas that the run reports as planned, and does nothing more. -/
  quotas : (before.invoke ("--dry-run" :: arguments)).1.exitCode = 0 →
    ∃ run trace, options.settled before.tree = .ok run ∧
      before.generated run.trace = .ok trace ∧
      (∃ printed, (before.invoke ("--dry-run" :: arguments)).2 =
          { announced before run with printed } ∧
        Summary.Printed (announced before run).printed (Summary.dryRunLines trace.report.planned)
          printed) ∧
      ((before.invoke arguments).1.TraceWritten →
        Summary.TellsResult trace.report run.output.traceFile (announced before run).printed
          (before.invoke arguments).2.printed) ∧
      ((before.invoke arguments).1 = .done → ∀ path, run.output.jsonReport = some path →
        before.tree.NoDevice path → ∃ text, RunReport.TellsPlan text trace.report.planned ∧
          (before.invoke arguments).2.tree.read path = .ok text.toUTF8)

/-- A dry run shows its plan on lines of their own. -/
theorem printed_planLines (session : Session) (quotas : Quotas) :
    Summary.Printed session.printed (Summary.dryRunLines quotas)
      (session.say (planLines quotas)).printed := by
  rw [Summary.planLines_eq]
  exact Summary.printed_block _ _

/-- A run reports the plan of its trace, to its user and to other programs. -/
theorem reports_plan {before : Session} {arguments : List String} {options : Options}
    (parsed : Options.ofArguments arguments = .ok options) (real : options.dryRun = false)
    {run : RunConfig} {trace : Trace} (settled : options.settled before.tree = .ok run)
    (generated : before.generated run.trace = .ok trace)
    (past : (before.invoke arguments).1.TraceWritten) :
    Summary.TellsResult trace.report run.output.traceFile (announced before run).printed
      (before.invoke arguments).2.printed ∧
    ((before.invoke arguments).1 = .done → ∀ path, run.output.jsonReport = some path →
      before.tree.NoDevice path → ∃ text, RunReport.TellsPlan text trace.report.planned ∧
        (before.invoke arguments).2.tree.read path = .ok text.toUTF8) := by
  obtain ⟨run, trace, tree, result, settled', generated', written, reporting, ended⟩ :=
    reporting_of_invoke parsed real past
  rw [settled'] at settled
  cases settled
  rw [generated'] at generated
  cases generated
  constructor
  · rw [printed_of_reporting reporting]
    exact Summary.tellsResult _ _ _
  · intro done path asked noDevice
    have ok : result = .ok () := by
      rw [ended] at done
      cases result with
      | error failure => cases done
      | ok value => rfl
    have noDeviceAfter := FileTree.noDevice_write noDevice run.output.traceFile
      (TraceFile.chunks trace.records)
    rw [written] at noDeviceAfter
    have tells := RunReport.tellsPlan_ofRun (Prod.ext generated' rfl) (some run.output.traceFile)
      before.time
    exact ⟨_, tells, read_report_of_reporting reporting ok asked noDeviceAfter⟩

/-- A run that ends before its trace, or that is only planned, leaves all files
as they are; and a dry run foretells the run without the switch. -/
theorem dry_run_foretells (before : Session) (arguments : List String) :
    (Harmless before arguments → (before.invoke arguments).2.tree = before.tree) ∧
      ∀ options, Options.ofArguments arguments = .ok options → options.dryRun = false →
        Foretold before arguments options := by
  refine ⟨tree_of_harmless, ?_⟩
  intro options parsed real
  have planned := Options.ofArguments_dryRun parsed real
  have same : ({ options with dryRun := true } : Options).settled before.tree =
    options.settled before.tree := rfl
  have ends := @done_dry_iff before _ _ planned rfl
  rw [same] at ends
  constructor
  · rw [ends, pastGeneration_iff parsed real]
  · intro ended
    obtain ⟨run, quotas, settled, accepted⟩ := ends.1 ended
    obtain ⟨trace, generated, rfl⟩ := before.generated_of_plan accepted
    have shown := congrArg Prod.snd (invoke_dry planned rfl (same.trans settled) accepted)
    refine ⟨run, trace, settled, generated, ⟨_, shown, printed_planLines _ _⟩, ?_, ?_⟩
    · intro past
      exact (reports_plan parsed real settled generated past).1
    · intro done
      have past : (before.invoke arguments).1.TraceWritten := by
        rw [done]
        trivial
      exact (reports_plan parsed real settled generated past).2 done

theorem dry_run_foretells_named :
    Harmless emptyMachine ("--dry-run" :: namedArguments "trace.out" "report.json") ∧
      (emptyMachine.invoke ("--dry-run" :: namedArguments "trace.out" "report.json")).2.tree =
        emptyMachine.tree ∧
      (emptyMachine.invoke (namedArguments "trace.out" "report.json")).1 = .done ∧
      Foretold emptyMachine (namedArguments "trace.out" "report.json")
        (namedOptions "trace.out" "report.json") := by
  have parsed : Options.ofArguments (namedArguments "trace.out" "report.json") =
      .ok (namedOptions "trace.out" "report.json") := by decide +kernel
  have dry : Harmless emptyMachine
      ("--dry-run" :: namedArguments "trace.out" "report.json") :=
    .dry (Options.ofArguments_dryRun parsed rfl) rfl
  have tracePlace : emptyMachine.tree.placeForFile "trace.out" = .ok ["work", "trace.out"] := by
    decide +kernel
  have reportPlace : emptyMachine.tree.placeForFile "report.json" =
      .ok ["work", "report.json"] := by
    decide +kernel
  have done := invoke_namedArguments parsed (FileTree.writable_of_vacant tracePlace rfl)
    (FileTree.writable_of_vacant reportPlace rfl)
  exact ⟨dry, (dry_run_foretells _ _).1 dry, done, (dry_run_foretells _ _).2 _ parsed rfl⟩

end AccessTrace
