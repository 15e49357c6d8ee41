/-
Module: AccessTrace.Proofs.Program.Stored
Purpose: What a run leaves in its trace file, and when that is the trace.
Main exports:
  RunConfig.ReportOnTrace, Stored, Completion.TraceWritten, Program.stored_iff_of_delivery,
  trace_stored_iff
-/
import Mathlib
import AccessTrace.Proofs.Generator.Report
import AccessTrace.Proofs.Program.Course
import AccessTrace.Proofs.Summary.Lines
import AccessTrace.Proofs.TraceFile.Written

namespace AccessTrace

/-!
The trace is written first and the report for other programs last.  The report
leaves every file alone but its own, so that the trace stays where it was
written unless both have been given one place.  There the report takes the
place of the trace, although the run has shown the name of a trace file.
-/

/-- The report goes to the place of the trace. -/
def RunConfig.ReportOnTrace (run : RunConfig) (tree : FileTree) : Prop :=
  ∃ path place, run.output.jsonReport = some path ∧ tree.placeForFile path = .ok place ∧
    tree.placeForFile run.output.traceFile = .ok place

/-- The trace is in its file, and the counters that were shown count its lines. -/
structure Stored (run : RunConfig) (trace : Trace) (tree : FileTree) : Prop where
  content : tree.read run.output.traceFile = .ok (TraceFile.text trace.records).toUTF8
  decoded :
    TraceFile.decode run.output.traceFile (tree.read run.output.traceFile) = .ok trace.records
  counted : trace.records.size < 2 ^ 64 → trace.Counted

/-- Whatever holds the text of a trace holds the trace. -/
theorem Stored.ofContent {run : RunConfig} {trace : Trace} {tree : FileTree}
    (content : tree.read run.output.traceFile = .ok (TraceFile.text trace.records).toUTF8)
    (counted : trace.records.size < 2 ^ 64 → trace.Counted) : Stored run trace tree := by
  refine ⟨content, ?_, counted⟩
  rw [content]
  exact TraceFile.decode_text _ _

/-- The program has written the trace and shown the result: it ended well, or it
failed to write the report and nothing else. -/
def Completion.TraceWritten : Completion → Prop
  | .done => True
  | .failed failure =>
    ∃ path error, failure = Program.unwritten "Failed to write JSON report" path error
  | .misused _ => False

/-! ### The trace -/

/-- A trace of a session comes from a plan, whose counters count its records. -/
theorem Session.counted_of_generated {session : Session} {config : Config} {trace : Trace}
    (generated : session.generated config = .ok trace) (short : trace.records.size < 2 ^ 64) :
    trace.Counted := by
  cases plan : config.plan with
  | error error =>
      rw [Session.generated_of_refused session plan] at generated
      cases generated
  | ok planned =>
      obtain ⟨made, rest, result, -, counters, reads, writes⟩ :=
        generate_counts plan (session.source config)
      rw [Session.generated, result] at generated
      cases generated
      exact counted_of_roundedUp short counters reads writes

/-! ### The report for other programs -/

/-- A report is no trace: it starts with a brace. -/
theorem RunReport.text_ne_text (report : RunReport) (records : Array Record) :
    report.text .pretty ≠ TraceFile.text records := by
  intro same
  have brace : '\x7b' ∈ (report.text .pretty).toList := by
    unfold RunReport.text RunReport.toJson Json.Value.print
    rw [String.toList_append, String.toList_ofList, List.cons_append, List.cons_append, Json.print]
    exact List.mem_append_left _ List.mem_cons_self
  rw [same] at brace
  rcases TraceFile.plain_of_mem_text brace with space | digit | lineFeed
  · exact absurd space (by decide)
  · exact absurd digit (by decide)
  · exact absurd lineFeed (by decide)

namespace Program

open Session

variable {run : RunConfig} {trace : Trace} {before : Session}
  {outcome : Except Failure Unit × Session}

/-- The report writes one file at most, and no file but its own. -/
theorem tree_of_reporting (reporting : Reporting run trace before outcome) :
    outcome.2.tree = before.tree ∨
      ∃ path chunks, run.output.jsonReport = some path ∧
        outcome.2.tree = (before.tree.write path chunks).2 := by
  cases reporting with
  | unasked => exact .inl rfl
  | refused asked failed => exact .inr ⟨_, _, asked, (congrArg Prod.snd failed).symm⟩
  | written asked delivered => exact .inr ⟨_, _, asked, (congrArg Prod.snd delivered).symm⟩

/-- A report that goes elsewhere leaves the trace file as it is. -/
theorem read_of_reporting (reporting : Reporting run trace before outcome)
    {place : Place} (found : before.tree.placeForFile run.output.traceFile = .ok place)
    (apart : ¬ run.ReportOnTrace before.tree) :
    outcome.2.tree.read run.output.traceFile = before.tree.read run.output.traceFile := by
  rcases tree_of_reporting reporting with same | ⟨path, chunks, asked, written⟩
  · rw [same]
  · rw [written]
    apply FileTree.read_write_other found
    intro here
    exact apart ⟨path, place, asked, here, found⟩

/-- A report that goes to the place of the trace is what is there afterwards. -/
theorem read_of_reporting_onTrace (reporting : Reporting run trace before outcome)
    (noDevice : before.tree.NoDevice run.output.traceFile)
    (onTrace : run.ReportOnTrace before.tree) :
    outcome.2.tree.read run.output.traceFile = .ok (reportText before run trace).toUTF8 := by
  obtain ⟨path, place, named, reportPlace, tracePlace⟩ := onTrace
  have noDevice' : before.tree.NoDevice path := by
    intro other device found
    rw [reportPlace] at found
    cases found
    exact noDevice place device tracePlace
  cases reporting with
  | unasked none =>
      rw [none] at named
      cases named
  | refused asked failed =>
      rw [asked] at named
      cases named
      rw [FileTree.write_of_placeForFile noDevice' reportPlace] at failed
      cases failed
  | written asked delivered =>
      rw [asked] at named
      cases named
      have content := FileTree.read_write_same noDevice' reportPlace tracePlace delivered
      rw [joined_singleton] at content
      exact content

/-- A report that was asked for is in its file. -/
theorem read_report_of_reporting (reporting : Reporting run trace before outcome)
    (ok : outcome.1 = .ok ()) {path : String} (asked : run.output.jsonReport = some path)
    (noDevice : before.tree.NoDevice path) :
    outcome.2.tree.read path = .ok (reportText before run trace).toUTF8 := by
  cases reporting with
  | unasked none =>
      rw [none] at asked
      cases asked
  | refused => cases ok
  | written asked' delivered =>
      rw [asked'] at asked
      cases asked
      have content := FileTree.read_write noDevice delivered
      rw [joined_singleton] at content
      exact content

theorem printed_of_reporting (reporting : Reporting run trace before outcome) :
    outcome.2.printed = before.printed := by
  cases reporting with
  | unasked => rfl
  | refused => rfl
  | written => rfl

/-- A trace that is in its file stays there exactly if the report goes elsewhere. -/
theorem stored_iff_of_reporting (reporting : Reporting run trace before outcome)
    (noDevice : before.tree.NoDevice run.output.traceFile)
    {place : Place} (found : before.tree.placeForFile run.output.traceFile = .ok place)
    (content : before.tree.read run.output.traceFile = .ok (TraceFile.text trace.records).toUTF8)
    (counted : trace.records.size < 2 ^ 64 → trace.Counted) :
    Stored run trace outcome.2.tree ↔ ¬ run.ReportOnTrace before.tree := by
  constructor
  · intro stored onTrace
    have replaced := read_of_reporting_onTrace reporting noDevice onTrace
    rw [stored.content] at replaced
    have same := String.toByteArray_inj.1 (Except.ok.inj replaced)
    exact RunReport.text_ne_text _ _ same.symm
  · intro apart
    have kept := read_of_reporting reporting found apart
    rw [content] at kept
    exact .ofContent kept counted

/-! ### The whole delivery -/

/-- Writing a file changes nothing about which paths lead to one place. -/
theorem reportOnTrace_write (run : RunConfig) (tree : FileTree) (path : String)
    (chunks : List ByteArray) :
    run.ReportOnTrace (tree.write path chunks).2 ↔ run.ReportOnTrace tree := by
  simp only [RunConfig.ReportOnTrace, FileTree.placeForFile_write]

/-- A delivery that gets past the trace has written it and goes on to the report. -/
theorem reporting_of_delivery {verbose : Bool}
    (delivery : Delivery run verbose trace before outcome)
    (past : (Completion.ofResult outcome.1).TraceWritten) :
    ∃ tree, before.tree.write run.output.traceFile (TraceFile.chunks trace.records) =
        (.ok (), tree) ∧
      Reporting run trace (summarized { before with tree } run trace) outcome := by
  cases delivery with
  | refused failed =>
      obtain ⟨path, error, same⟩ := past
      have steps := congrArg Failure.steps same
      simp [unwritten] at steps
  | unverified checked written wrong =>
      obtain ⟨path, error, same⟩ := past
      have steps := congrArg Failure.steps same
      simp [unwritten, Failure.within] at steps
  | delivered written right reporting => exact ⟨_, written, reporting⟩

theorem stored_iff_of_delivery (before : Session) {tree : FileTree}
    (written : before.tree.write run.output.traceFile (TraceFile.chunks trace.records) =
      (.ok (), tree))
    (reporting : Reporting run trace (summarized { before with tree } run trace) outcome)
    (noDevice : before.tree.NoDevice run.output.traceFile)
    (counted : trace.records.size < 2 ^ 64 → trace.Counted) :
    Stored run trace outcome.2.tree ↔ ¬ run.ReportOnTrace before.tree := by
  obtain ⟨place, found⟩ := FileTree.placeForFile_of_write written
  have foundAfter := (FileTree.placeForFile_write before.tree run.output.traceFile
    run.output.traceFile (TraceFile.chunks trace.records) place).2 found
  have content := FileTree.read_write noDevice written
  rw [TraceFile.joined_chunks] at content
  rw [← reportOnTrace_write run before.tree run.output.traceFile (TraceFile.chunks trace.records)]
  -- The report meets the tree that the trace has been written to.
  have noDeviceAfter := FileTree.noDevice_write noDevice run.output.traceFile
    (TraceFile.chunks trace.records)
  rw [written] at foundAfter noDeviceAfter ⊢
  exact stored_iff_of_reporting reporting noDeviceAfter foundAfter content counted

end Program

/-- Failing to write the report comes after the trace. -/
theorem Completion.TraceWritten.afterTrace {failure : Failure}
    (past : (Completion.failed failure).TraceWritten) : failure.AfterTrace := by
  obtain ⟨path, error, rfl⟩ := past
  exact ⟨"Failed to write JSON report", by decide, rfl⟩

open Session Program

/-- A run that is not only planned and gets past its trace has written it and
goes on to the report. -/
theorem reporting_of_invoke {before : Session} {arguments : List String} {options : Options}
    (parsed : Options.ofArguments arguments = .ok options) (real : options.dryRun = false)
    (past : (before.invoke arguments).1.TraceWritten) :
    ∃ run trace tree result, options.settled before.tree = .ok run ∧
      before.generated run.trace = .ok trace ∧
      before.tree.write run.output.traceFile (TraceFile.chunks trace.records) = (.ok (), tree) ∧
      Reporting run trace (summarized { announced before run with tree } run trace)
        (result, (before.invoke arguments).2) ∧
      (before.invoke arguments).1 = .ofResult result := by
  obtain ⟨outcome, course, ended⟩ := course_of_invoke before parsed
  rw [ended] at past ⊢
  cases course with
  | unsettled unsettled => exact absurd past.afterTrace unsettled.not_afterTrace
  | unplanned settled refused =>
      exact absurd past.afterTrace (not_afterTrace_within_planStep options _)
  | planned dry =>
      rw [dry] at real
      cases real
  | produced notDry settled generated delivery =>
      obtain ⟨tree, written, reporting⟩ := reporting_of_delivery delivery past
      exact ⟨_, _, tree, outcome.1, settled, generated, written, reporting, rfl⟩

/-! ### Runs that go through -/

namespace Program

theorem ok_of_reporting {run : RunConfig} {trace : Trace} {before : Session}
    {outcome : Except Failure Unit × Session} (reporting : Reporting run trace before outcome)
    (room : ∀ path, run.output.jsonReport = some path → before.tree.Writable path) :
    outcome.1 = .ok () := by
  cases reporting with
  | unasked => rfl
  | written => rfl
  | refused asked failed =>
      have result := (room _ asked).write_eq_ok [(reportText before run trace).toUTF8]
      rw [failed] at result
      cases result

theorem ok_of_delivery {run : RunConfig} {verbose : Bool} {trace : Trace} {before : Session}
    {outcome : Except Failure Unit × Session} (delivery : Delivery run verbose trace before outcome)
    (counted : verbose = true → trace.Counted)
    (writable : before.tree.Writable run.output.traceFile)
    (room : ∀ path, run.output.jsonReport = some path → before.tree.Writable path) :
    outcome.1 = .ok () := by
  cases delivery with
  | refused failed =>
      have result := writable.write_eq_ok (TraceFile.chunks trace.records)
      rw [failed] at result
      cases result
  | unverified checked written wrong =>
      rw [FileTree.read_write writable.noDevice written,
        TraceFile.verify_of_counted _ (counted checked)] at wrong
      cases wrong
  | delivered written right reporting =>
      apply ok_of_reporting reporting
      intro path asked
      have still := (room path asked).write run.output.traceFile (TraceFile.chunks trace.records)
      rw [written] at still
      exact still

end Program

/-- A run with a plan goes through if its files can be written. -/
theorem Session.invoke_eq_done (before : Session) {arguments : List String} {options : Options}
    {run : RunConfig} {planned : Quotas}
    (parsed : Options.ofArguments arguments = .ok options) (real : options.dryRun = false)
    (settled : options.settled before.tree = .ok run) (accepted : run.trace.plan = .ok planned)
    (short : options.verbose = true → ∀ trace, before.generated run.trace = .ok trace →
      trace.records.size < 2 ^ 64)
    (writable : before.tree.Writable run.output.traceFile)
    (room : ∀ path, run.output.jsonReport = some path → before.tree.Writable path) :
    (before.invoke arguments).1 = .done := by
  obtain ⟨outcome, course, ended⟩ := course_of_invoke before parsed
  rw [ended]
  cases course with
  | unsettled unsettled =>
      rw [(Options.settled_eq_error_iff _).2 unsettled] at settled
      cases settled
  | unplanned settled' refused =>
      rw [settled'] at settled
      cases settled
      rw [refused] at accepted
      cases accepted
  | planned dry =>
      rw [dry] at real
      cases real
  | produced notDry settled' generated delivery =>
      rw [settled'] at settled
      cases settled
      have result := ok_of_delivery delivery
        (fun checked => counted_of_generated generated (short checked _ generated)) writable room
      rw [result]
      rfl

/-! ### Where the trace is -/

/-- Where the report goes to the place of the trace, the file of the trace holds
a report. -/
theorem read_of_invoke_onTrace {before : Session} {arguments : List String} {options : Options}
    (parsed : Options.ofArguments arguments = .ok options) (real : options.dryRun = false)
    (past : (before.invoke arguments).1.TraceWritten) :
    ∃ run trace, options.settled before.tree = .ok run ∧
      before.generated run.trace = .ok trace ∧
      (before.tree.NoDevice run.output.traceFile → run.ReportOnTrace before.tree →
        (before.invoke arguments).2.tree.read run.output.traceFile =
          .ok (reportText before run trace).toUTF8) := by
  obtain ⟨run, trace, tree, result, settled, generated, written, reporting, -⟩ :=
    reporting_of_invoke parsed real past
  refine ⟨run, trace, settled, generated, ?_⟩
  intro noDevice onTrace
  have noDeviceAfter := FileTree.noDevice_write noDevice run.output.traceFile
    (TraceFile.chunks trace.records)
  have onTraceAfter := (reportOnTrace_write run before.tree run.output.traceFile
    (TraceFile.chunks trace.records)).2 onTrace
  rw [written] at noDeviceAfter onTraceAfter
  exact read_of_reporting_onTrace reporting noDeviceAfter onTraceAfter

/-- A run that is not only planned and gets past its trace has generated one
and shown its counters, each on its line.  The trace is in its file, and can be
read from it, exactly if the report for other programs did not go to the same
place. -/
theorem trace_stored_iff (before : Session) {arguments : List String} {options : Options}
    (parsed : Options.ofArguments arguments = .ok options) (real : options.dryRun = false)
    (past : (before.invoke arguments).1.TraceWritten) :
    ∃ run trace, options.settled before.tree = .ok run ∧
      before.generated run.trace = .ok trace ∧
      (before.invoke arguments).2.printed =
        (summarized (announced before run) run trace).printed ∧
      Summary.TellsResult trace.report run.output.traceFile (announced before run).printed
        (before.invoke arguments).2.printed ∧
      (before.tree.NoDevice run.output.traceFile →
        (Stored run trace (before.invoke arguments).2.tree ↔ ¬ run.ReportOnTrace before.tree)) := by
  obtain ⟨run, trace, tree, result, settled, generated, written, reporting, -⟩ :=
    reporting_of_invoke parsed real past
  have printed := printed_of_reporting reporting
  have tells := Summary.tellsResult trace.report run.output.traceFile (announced before run).printed
  refine ⟨run, trace, settled, generated, printed, ?_, ?_⟩
  · rw [printed]
    exact tells
  · intro noDevice
    exact stored_iff_of_delivery (announced before run) written reporting noDevice
      (counted_of_generated generated)

/-! ### One place and two -/

/-- A small run, with its files named. -/
def namedArguments (traceFile jsonReport : String) : List String :=
  ["-a", "1000", "-n", "4", "-b", "4", "--sequential-blocks", "1", "--seed", "3",
    "-o", traceFile, "--json-report", jsonReport]

/-- The options of the small run. -/
def namedOptions (traceFile jsonReport : String) : Options where
  output := some traceFile
  jsonReport := some jsonReport
  maxAddress := some "1000"
  instructions := some "4"
  blockSize := some "4"
  sequentialBlocks := some "1"
  seed := some 3

/-- The configuration of the small run. -/
def namedRun (traceFile jsonReport : String) : RunConfig where
  trace :=
    { maxAddress := 1000, instructionCount := 4, blockSize := 4, sequentialBlockCount := 1,
      seed := some 3 }
  output := { traceFile, jsonReport := some jsonReport }

/-- A machine with nothing in its working directory. -/
def emptyMachine : Session :=
  { tree := .fresh ["work"], time := "2024-05-01T12:00:00+00:00" }

theorem settled_namedOptions (traceFile jsonReport : String) :
    (namedOptions traceFile jsonReport).settled emptyMachine.tree =
      .ok (namedRun traceFile jsonReport) := by
  have read : (namedOptions traceFile jsonReport).toConfig =
      .ok (namedRun traceFile jsonReport).trace := by
    change (namedOptions "" "").toConfig = .ok (namedRun "" "").trace
    decide +kernel
  rw [Options.settled_of_unnamed rfl, read]
  rfl

theorem plan_namedRun (traceFile jsonReport : String) :
    (namedRun traceFile jsonReport).trace.plan = .ok ⟨1, 1, 1, 1⟩ := by
  change (namedRun "" "").trace.plan = .ok ⟨1, 1, 1, 1⟩
  decide +kernel

/-- The small run goes through if both files can be written. -/
theorem invoke_namedArguments {traceFile jsonReport : String}
    (parsed : Options.ofArguments (namedArguments traceFile jsonReport) =
      .ok (namedOptions traceFile jsonReport))
    (writable : emptyMachine.tree.Writable traceFile)
    (room : emptyMachine.tree.Writable jsonReport) :
    (emptyMachine.invoke (namedArguments traceFile jsonReport)).1 = .done := by
  apply emptyMachine.invoke_eq_done parsed rfl (settled_namedOptions _ _) (plan_namedRun _ _)
  · exact nofun
  · exact writable
  · intro path asked
    cases asked
    exact room

theorem trace_stored_apart :
    (emptyMachine.invoke (namedArguments "trace.out" "report.json")).1 = .done ∧
      ∃ trace, emptyMachine.generated (namedRun "trace.out" "report.json").trace = .ok trace ∧
        Stored (namedRun "trace.out" "report.json") trace
          (emptyMachine.invoke (namedArguments "trace.out" "report.json")).2.tree := by
  have parsed : Options.ofArguments (namedArguments "trace.out" "report.json") =
      .ok (namedOptions "trace.out" "report.json") := by decide +kernel
  have tracePlace : emptyMachine.tree.placeForFile "trace.out" = .ok ["work", "trace.out"] := by
    decide +kernel
  have reportPlace : emptyMachine.tree.placeForFile "report.json" =
      .ok ["work", "report.json"] := by
    decide +kernel
  have writable := FileTree.writable_of_vacant tracePlace rfl
  have done := invoke_namedArguments parsed writable (FileTree.writable_of_vacant reportPlace rfl)
  obtain ⟨run, trace, settled, generated, -, -, stored⟩ :=
    trace_stored_iff emptyMachine parsed rfl (by rw [done]; trivial)
  rw [settled_namedOptions] at settled
  cases settled
  refine ⟨done, trace, generated, (stored writable.noDevice).2 ?_⟩
  rintro ⟨path, place, asked, foundReport, foundTrace⟩
  cases asked
  have one : Except.ok ["work", "report.json"] = Except.ok ["work", "trace.out"] :=
    (reportPlace.symm.trans foundReport).trans (foundTrace.symm.trans tracePlace)
  exact absurd (Except.ok.inj one) (by decide)

/-- A run that ends well, and whose trace file holds the report in place of the
trace that was generated. -/
theorem trace_lost_in_one_place :
    (namedOptions "same" "same").dryRun = false ∧
      Options.ofArguments (namedArguments "same" "same") = .ok (namedOptions "same" "same") ∧
      (namedOptions "same" "same").settled emptyMachine.tree = .ok (namedRun "same" "same") ∧
      emptyMachine.tree.NoDevice "same" ∧
      (emptyMachine.invoke (namedArguments "same" "same")).1 = .done ∧
      ∃ trace, emptyMachine.generated (namedRun "same" "same").trace = .ok trace ∧
        (emptyMachine.invoke (namedArguments "same" "same")).2.tree.read "same" ≠
          .ok (TraceFile.text trace.records).toUTF8 := by
  have parsed : Options.ofArguments (namedArguments "same" "same") =
      .ok (namedOptions "same" "same") := by decide +kernel
  have place : emptyMachine.tree.placeForFile "same" = .ok ["work", "same"] := by decide +kernel
  have writable := FileTree.writable_of_vacant place rfl
  have done := invoke_namedArguments parsed writable writable
  refine ⟨rfl, parsed, settled_namedOptions _ _, writable.noDevice, done, ?_⟩
  obtain ⟨run, trace, settled, generated, replaced⟩ :=
    read_of_invoke_onTrace parsed rfl (by rw [done]; trivial)
  rw [settled_namedOptions] at settled
  cases settled
  refine ⟨trace, generated, ?_⟩
  intro kept
  have same := kept.symm.trans (replaced writable.noDevice ⟨"same", _, rfl, place, place⟩)
  exact RunReport.text_ne_text _ _ (String.toByteArray_inj.1 (Except.ok.inj same)).symm

end AccessTrace
