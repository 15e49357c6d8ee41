/-
Module: AccessTrace.Proofs.Program.Course
Purpose: The courses that a run can take on a machine that is a value.
Main exports:
  Program.Reporting, Program.Delivery, Program.Course, Program.course_run,
  Session.course_of_invoke, Session.tree_of_invoke
-/
import Mathlib
import AccessTrace.Proofs.Program.Session
import AccessTrace.Proofs.Program.Settled

namespace AccessTrace

/-!
What a run can do is said once, as a course: which stage was the last, what it
depended on, what has been printed, and what has become of the files.  Files
are touched by the two deliveries at the end and by nothing before them.
-/

open Session

namespace Program

theorem perform_configure (before : Session) (options : Options) :
    before.perform (configure options) = (.ok (options.settled before.tree), before) := by
  unfold configure Options.settled
  cases options.config with
  | none => rfl
  | some path => rfl

/-- The session once the configuration of a run has been shown. -/
def announced (before : Session) (run : RunConfig) : Session :=
  (before.say banner).say (configurationLines run)

/-- The session once the result of a run has been shown. -/
def summarized (before : Session) (run : RunConfig) (trace : Trace) : Session :=
  before.say ([""] ++ Summary.report trace.report (some run.output.traceFile))

/-- The content of the file for other programs. -/
def reportText (session : Session) (run : RunConfig) (trace : Trace) : String :=
  (RunReport.ofRun run.trace trace.report (some run.output.traceFile) session.time).text .pretty

/-! ### Courses -/

/-- The failure to write a file in a step of a run. -/
def unwritten (step path : String) (error : IoError) : Failure :=
  { steps := [step], cause := .sink path error }

/-- How the last stage goes, which leaves a file for other programs. -/
inductive Reporting (run : RunConfig) (trace : Trace) (before : Session) :
    Except Failure Unit × Session → Prop
  | unasked (none : run.output.jsonReport = none) : Reporting run trace before (.ok (), before)
  | refused {path : String} {error : IoError} {tree : FileTree}
      (asked : run.output.jsonReport = some path)
      (failed :
        before.tree.write path [(reportText before run trace).toUTF8] = (.error error, tree)) :
      Reporting run trace before
        (.error (unwritten "Failed to write JSON report" path error), { before with tree })
  | written {path : String} {tree : FileTree} (asked : run.output.jsonReport = some path)
      (delivered :
        before.tree.write path [(reportText before run trace).toUTF8] = (.ok (), tree)) :
      Reporting run trace before (.ok (), { before with tree })

/-- How a run goes on once it has its trace. -/
inductive Delivery (run : RunConfig) (verbose : Bool) (trace : Trace) (before : Session) :
    Except Failure Unit × Session → Prop
  | refused {error : IoError} {tree : FileTree}
      (failed :
        before.tree.write run.output.traceFile (TraceFile.chunks trace.records) =
          (.error error, tree)) :
      Delivery run verbose trace before
        (.error (unwritten "Failed to write trace file" run.output.traceFile error),
          { before with tree })
  | unverified {failure : Failure} {tree : FileTree} (checked : verbose = true)
      (written :
        before.tree.write run.output.traceFile (TraceFile.chunks trace.records) = (.ok (), tree))
      (wrong :
        TraceFile.verify run.output.traceFile trace.report (tree.read run.output.traceFile) =
          .error failure) :
      Delivery run verbose trace before
        (.error (failure.within "Trace file verification failed"), { before with tree })
  | delivered {tree : FileTree} {outcome : Except Failure Unit × Session}
      (written :
        before.tree.write run.output.traceFile (TraceFile.chunks trace.records) = (.ok (), tree))
      (right : verbose = true →
        TraceFile.verify run.output.traceFile trace.report (tree.read run.output.traceFile) =
          .ok ())
      (reported : Reporting run trace (summarized { before with tree } run trace) outcome) :
      Delivery run verbose trace before outcome

/-- The step in which a plan is made. -/
def planStep (options : Options) : String :=
  if options.dryRun then parameterStep else "Trace generation failed"

/-- Planning comes before the trace. -/
theorem not_afterTrace_within_planStep (options : Options) (failure : Failure) :
    ¬ (failure.within (planStep options)).AfterTrace := by
  rintro ⟨step, late, first⟩
  cases first
  unfold planStep at late
  split at late
  · exact absurd late (by decide)
  · exact absurd late (by decide)

/-- How a run goes. -/
inductive Course (options : Options) (before : Session) : Except Failure Unit × Session → Prop
  | unsettled {failure : Failure} (unsettled : options.Unsettled before.tree failure) :
      Course options before (.error failure, before.say banner)
  | unplanned {run : RunConfig} {error : ParameterError}
      (settled : options.settled before.tree = .ok run) (refused : run.trace.plan = .error error) :
      Course options before
        (.error ((failureOf error).within (planStep options)), announced before run)
  | planned {run : RunConfig} {quotas : Quotas} (dry : options.dryRun = true)
      (settled : options.settled before.tree = .ok run) (accepted : run.trace.plan = .ok quotas) :
      Course options before (.ok (), (announced before run).say (planLines quotas))
  | produced {run : RunConfig} {trace : Trace} {outcome : Except Failure Unit × Session}
      (real : options.dryRun = false) (settled : options.settled before.tree = .ok run)
      (generated : before.generated run.trace = .ok trace)
      (delivered : Delivery run options.verbose trace (announced before run) outcome) :
      Course options before outcome

/-! ### Every run takes a course -/

/-- The last stage of a run. -/
def leaveReport (run : RunConfig) (trace : Trace) : Stage Unit :=
  match run.output.jsonReport with
  | none => pure ()
  | some path => do
    let report := RunReport.ofRun run.trace trace.report (some run.output.traceFile) (← Host.now)
    let written ← writeFile path [(report.text .pretty).toUTF8]
    Failure.during "Failed to write JSON report" written

/-- What a run does with its trace. -/
def deliver (run : RunConfig) (verbose : Bool) (trace : Trace) : Stage Unit := do
  let written ← writeFile run.output.traceFile (TraceFile.chunks trace.records)
  Failure.during "Failed to write trace file" written
  if verbose then
    let content ← Host.read run.output.traceFile
    Failure.during "Trace file verification failed"
      (TraceFile.verify run.output.traceFile trace.report content)
  printLines ([""] ++ Summary.report trace.report (some run.output.traceFile))
  leaveReport run trace

theorem reporting_leaveReport (before : Session) (run : RunConfig) (trace : Trace) :
    Reporting run trace before (before.perform (leaveReport run trace)) := by
  unfold leaveReport
  cases asked : run.output.jsonReport with
  | none =>
      rw [perform_pure]
      exact .unasked asked
  | some path =>
      simp only [perform_bind, perform_now, perform_writeFile, perform_lift]
      cases written : before.tree.write path [(reportText before run trace).toUTF8] with
      | mk result tree =>
          rw [reportText] at written
          rw [written]
          cases result with
          | error error => exact .refused asked written
          | ok done => exact .written asked written

theorem delivery_deliver (before : Session) (run : RunConfig) (verbose : Bool) (trace : Trace) :
    Delivery run verbose trace before (before.perform (deliver run verbose trace)) := by
  unfold deliver
  rw [perform_bind, perform_writeFile]
  cases written : before.tree.write run.output.traceFile (TraceFile.chunks trace.records) with
  | mk result tree =>
      simp only [perform_bind, perform_lift]
      cases result with
      | error error => exact .refused written
      | ok done =>
          have reported := reporting_leaveReport (summarized { before with tree } run trace) run trace
          cases verbose with
          | false => exact .delivered written nofun reported
          | true =>
              simp only [if_true, perform_bind, perform_read, perform_lift, Failure.during,
                Except.mapError]
              cases verified : TraceFile.verify run.output.traceFile trace.report
                  (tree.read run.output.traceFile) with
              | error failure => exact .unverified rfl written verified
              | ok done => exact .delivered written (fun _ => verified) reported

theorem produce_eq (run : RunConfig) (verbose : Bool) :
    (produce run verbose : Stage Unit) = (do
      let source ← sourceOf run.trace
      let trace ← Failure.during "Trace generation failed"
        ((generate run.trace source).1.mapError failureOf)
      deliver run verbose trace) := rfl

theorem perform_produce (before : Session) (run : RunConfig) (verbose : Bool) :
    before.perform (produce run verbose) =
      match before.generated run.trace with
      | .error error => (.error ((failureOf error).within "Trace generation failed"), before)
      | .ok trace => before.perform (deliver run verbose trace) := by
  rw [produce_eq]
  simp only [perform_bind, perform_sourceOf, perform_lift]
  -- Only the trace is needed; where the draws have got to is not.
  have same : (generate run.trace (before.source run.trace)).1 = before.generated run.trace := rfl
  rw [same]
  cases before.generated run.trace with
  | error error => rfl
  | ok trace => rfl

theorem perform_planOnly (before : Session) (config : Config) :
    before.perform (planOnly config) =
      match config.plan with
      | .error error => (.error ((failureOf error).within parameterStep), before)
      | .ok quotas => (.ok (), before.say (planLines quotas)) := by
  unfold planOnly
  cases config.plan with
  | error error => rfl
  | ok quotas => rfl

theorem perform_run (before : Session) (options : Options) :
    before.perform (run options) =
      match options.settled before.tree with
      | .error failure => (.error failure, before.say banner)
      | .ok run =>
        (announced before run).perform
          (if options.dryRun then planOnly run.trace else produce run options.verbose) := by
  unfold run
  simp only [perform_bind, perform_printLines, perform_configure, perform_lift]
  have tree : (before.say banner).tree = before.tree := rfl
  rw [tree]
  cases options.settled before.tree with
  | error failure => rfl
  | ok run => rfl

/-- Every run takes one of the courses. -/
theorem course_run (options : Options) (before : Session) :
    Course options before (before.perform (run options)) := by
  rw [perform_run]
  cases settled : options.settled before.tree with
  | error failure => exact .unsettled ((Options.settled_eq_error_iff failure).1 settled)
  | ok run =>
      simp only
      cases mode : options.dryRun with
      | true =>
          rw [if_pos rfl, perform_planOnly]
          cases plan : run.trace.plan with
          | error error =>
              have refused : Course options before _ := .unplanned settled plan
              rw [planStep, mode] at refused
              exact refused
          | ok quotas => exact .planned mode settled plan
      | false =>
          rw [if_neg Bool.false_ne_true, perform_produce]
          cases plan : run.trace.plan with
          | error error =>
              have refused : Course options before _ := .unplanned settled plan
              rw [planStep, mode] at refused
              rw [generated_of_refused _ plan]
              exact refused
          | ok quotas =>
              obtain ⟨trace, generated, -⟩ := generated_of_plan (announced before run) plan
              rw [generated]
              exact .produced mode settled generated (delivery_deliver _ _ _ _)

end Program

/-! ### The program -/

/-- How the program ends after a run. -/
def Completion.ofResult : Except Failure Unit → Completion
  | .ok () => .done
  | .error failure => .failed failure

namespace Session

/-- Arguments that make options make a run with them. -/
theorem invoke_of_options (before : Session) {arguments : List String} {options : Options}
    (parsed : Options.ofArguments arguments = .ok options) :
    before.invoke arguments =
      (.ofResult (before.perform (Program.run options)).1,
        (before.perform (Program.run options)).2) := by
  unfold invoke Program.start
  rw [parsed]
  change (match before.perform (Program.run options) with
    | (result, after) => StateT.run (match result with
      | .ok () => pure Completion.done
      | .error failure => pure (Completion.failed failure)) after) = _
  rcases before.perform (Program.run options) with ⟨result, after⟩
  cases result with
  | error failure => rfl
  | ok done => rfl

/-- Arguments that make options end the program as one of the courses ends. -/
theorem course_of_invoke (before : Session) {arguments : List String} {options : Options}
    (parsed : Options.ofArguments arguments = .ok options) :
    ∃ outcome, Program.Course options before outcome ∧
      before.invoke arguments = (.ofResult outcome.1, outcome.2) :=
  ⟨_, Program.course_run options before, invoke_of_options before parsed⟩

/-- Only a run that is carried out and has a trace touches files. -/
theorem tree_of_invoke (before : Session) {arguments : List String} {options : Options}
    (parsed : Options.ofArguments arguments = .ok options) :
    (before.invoke arguments).2.tree = before.tree ∨
      options.dryRun = false ∧ ∃ run trace, options.settled before.tree = .ok run ∧
        before.generated run.trace = .ok trace := by
  obtain ⟨outcome, course, ended⟩ := course_of_invoke before parsed
  rw [ended]
  cases course with
  | unsettled => exact .inl rfl
  | unplanned => exact .inl rfl
  | planned => exact .inl rfl
  | produced real settled generated => exact .inr ⟨real, _, _, settled, generated⟩

/-- Arguments that make no options leave the files alone. -/
theorem tree_invoke_of_stop (before : Session) {arguments : List String} {stop : Stop}
    (stopped : Options.ofArguments arguments = .error stop) :
    (before.invoke arguments).2.tree = before.tree := by
  unfold invoke Program.start
  rw [stopped]
  cases stop <;> rfl

end Session
end AccessTrace
