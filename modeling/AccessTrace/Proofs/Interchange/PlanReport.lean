/-
Module: AccessTrace.Proofs.Interchange.PlanReport
Purpose: The quotas of a plan, as they stand in the report on a run and as they are read from it.
Main exports:
  RunReport.planLines, RunReport.exists_text_eq, RunReport.TellsPlan, RunReport.tellsPlan_ofRun
-/
import Mathlib
import AccessTrace.Proofs.Interchange.RunReport
import AccessTrace.Proofs.Parameter.Numerals

namespace AccessTrace

open AccessTrace.Text
open Json (Form printMember)

/-!
The plan is a member of the report, and each of its quotas has a line of its
own.  The lines are written out here.  They stand somewhere in the text of every
report, and they are found in their place by whoever decodes it.
-/

namespace RunReport

/-- The line of a quota in a report. -/
def quotaLine (name : String) (quota : Int64) : String :=
  "\n    \"" ++ name ++ "\": " ++ toString quota.toInt

/-- The lines of a plan in a report. -/
def planLines (quotas : Quotas) : String :=
  "\n  \"planned\": \x7b" ++
    quotaLine "sequential_write" quotas.sequentialWrite ++ "," ++
    quotaLine "sequential_read" quotas.sequentialRead ++ "," ++
    quotaLine "random_write" quotas.randomWrite ++ "," ++
    quotaLine "random_read" quotas.randomRead ++ "\n  \x7d"

/-- A text that tells other programs the quotas of a plan. -/
structure TellsPlan (text : String) (quotas : Quotas) : Prop where
  stated : ∃ before after, text = before ++ planLines quotas ++ after
  /-- Reading the text gives a report with the quotas. -/
  decoded : ∃ report : RunReport, report.planned = quotas ∧ text = report.text .pretty ∧
    Json.decode (ofJsonBy Json.NumberText.nearest) text = .ok report

theorem toList_quotaLine (name : String) (quota : Int64)
    (plain : Json.escapeAll name.toList = name.toList) :
    (quotaLine name quota).toList = printMember .pretty 2 name (.integer quota.toInt) := by
  have numeral : (toString quota.toInt).toList = Numeral.ofInt quota.toInt := by
    rw [← Numeral.ofList_ofInt, String.toList_ofList]
  simp only [quotaLine, String.toList_append, numeral, printMember, Json.print, Json.quote, plain]
  simp [Form.lineBreak, Form.colon]

theorem toList_planLines (quotas : Quotas) :
    (planLines quotas).toList = printMember .pretty 1 "planned" quotas.toJson := by
  have sequentialWrite := toList_quotaLine "sequential_write" quotas.sequentialWrite
    (by decide +kernel)
  have sequentialRead := toList_quotaLine "sequential_read" quotas.sequentialRead
    (by decide +kernel)
  have randomWrite := toList_quotaLine "random_write" quotas.randomWrite (by decide +kernel)
  have randomRead := toList_quotaLine "random_read" quotas.randomRead (by decide +kernel)
  have opening : "\n  \"planned\": \x7b".toList =
      Form.pretty.lineBreak 1 ++ Json.quote "planned".toList ++ Form.pretty.colon ++ ['\x7b'] := by
    decide +kernel
  have closing : "\n  \x7d".toList = Form.pretty.lineBreak 1 ++ ['\x7d'] := by decide +kernel
  have comma : ",".toList = [','] := rfl
  unfold planLines
  simp only [String.toList_append]
  rw [sequentialWrite, sequentialRead, randomWrite, randomRead, opening, closing, comma]
  unfold Quotas.toJson
  conv_rhs => unfold printMember
  rw [Json.print_object, Json.printRest_cons, Json.printRest_cons, Json.printRest_cons,
    Json.printRest]
  simp only [List.append_assoc, List.cons_append, List.nil_append, List.append_nil]

/-- The lines of the plan stand in the text of a report. -/
theorem exists_text_eq (report : RunReport) :
    ∃ before after, report.text .pretty = before ++ planLines report.planned ++ after := by
  have printed : ∃ before after, Json.print .pretty 0 report.toJson =
      before ++ printMember .pretty 1 "planned" report.planned.toJson ++ after :=
    Json.exists_print_eq .pretty 0 (by simp)
  obtain ⟨before, after, printed⟩ := printed
  refine ⟨String.ofList before, String.ofList after ++ "\n", ?_⟩
  rw [← String.toList_inj, text, Json.Value.print]
  simp only [String.toList_append, String.toList_ofList, printed, toList_planLines,
    List.append_assoc]

/-- The report on a run tells the plan of its trace. -/
theorem tellsPlan_ofRun {σ : Type} [AddressSource σ] {config : Config} {source after : σ}
    {trace : Trace} (generated : generate config source = (.ok trace, after))
    (traceFile : Option String) (generatedAt : String) :
    TellsPlan ((ofRun config trace.report traceFile generatedAt).text .pretty)
      trace.report.planned where
  stated := exists_text_eq _
  decoded := ⟨_, rfl, rfl, decode_ofRun generated traceFile generatedAt .pretty⟩

end RunReport
end AccessTrace
