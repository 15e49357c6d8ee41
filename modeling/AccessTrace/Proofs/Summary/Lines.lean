/-
Module: AccessTrace.Proofs.Summary.Lines
Purpose: What is printed about a plan and about a result, line by line and with all numerals.
Main exports:
  Summary.quota_eq, Summary.quotaLines, Summary.dryRunLines, Summary.resultLines, Summary.Printed,
  Summary.TellsResult
-/
import Mathlib
import AccessTrace.Program.Run
import AccessTrace.Proofs.Parameter.Numerals
import AccessTrace.Proofs.Summary.Grouped

namespace AccessTrace.Summary

open AccessTrace.Text

/-!
The lines are written out here as they are seen.  A quota is the numeral of an
integer, with a minus sign where it is negative.  A count has its digits in
groups of three, by whatever function sets the commas as they should be.
-/

/-! ### Lines as they are seen -/

/-- The lines that tell the quotas of a plan. -/
def quotaLines (quotas : Quotas) : List String :=
  ["  SW commands: " ++ toString quotas.sequentialWrite.toInt,
    "  SR commands: " ++ toString quotas.sequentialRead.toInt,
    "  RW commands: " ++ toString quotas.randomWrite.toInt,
    "  RR commands: " ++ toString quotas.randomRead.toInt]

/-- The lines at the end of a dry run. -/
def dryRunLines (quotas : Quotas) : List String :=
  ["", "Planned quotas:"] ++ quotaLines quotas ++
    ["", "Dry run mode - configuration validated successfully"]

/-- The lines that tell the counters of a run. -/
def countLines (numeral : UInt64 → String) (counts : ClassCounts) : List String :=
  ["Emitted:",
    "  Sequential write: " ++ numeral counts.sequentialWrite,
    "  Sequential read:  " ++ numeral counts.sequentialRead,
    "  Random write:     " ++ numeral counts.randomWrite,
    "  Random read:      " ++ numeral counts.randomRead,
    "  Total:            " ++ numeral counts.total ++ " (" ++ numeral counts.reads ++ " reads, " ++
      numeral counts.writes ++ " writes)"]

/-- The lines at the end of a run whose trace has been written. -/
def resultLines (numeral : UInt64 → String) (report : Report) (traceFile : String) :
    List String :=
  ["",
    "═══════════════════════════════════════════════════════════",
    "                    TRACE SUMMARY",
    "═══════════════════════════════════════════════════════════",
    "",
    "Trace file " ++ traceFile ++ " has been generated successfully!",
    "",
    "Planned:"] ++ quotaLines report.planned ++ [""] ++ countLines numeral report.emitted

/-- Lines have been printed behind what was there before, each with a line feed at its end. -/
def Printed (earlier : String) (lines : List String) (printed : String) : Prop :=
  printed = earlier ++ String.join (lines.map (· ++ "\n"))

/-- The result of a run has been printed, with the digits of all counts in groups of three. -/
def TellsResult (report : Report) (traceFile earlier printed : String) : Prop :=
  ∃ numeral : UInt64 → String,
    (∀ count, Grouped.Grouping count.toNat (numeral count).toList) ∧
      Printed earlier (resultLines numeral report traceFile) printed

/-! ### Lines as they are made -/

/-- A quota is the numeral of its integer. -/
theorem quota_eq (value : Int64) : quota value = toString value.toInt :=
  Numeral.ofList_ofInt value.toInt

theorem indented_planned (quotas : Quotas) : indented (planned quotas) = quotaLines quotas := by
  simp only [indented, planned, quota_eq, List.map_cons, List.map_nil, ← String.append_assoc]
  rfl

theorem planLines_eq (quotas : Quotas) : Program.planLines quotas = dryRunLines quotas := by
  rw [Program.planLines, indented_planned, dryRunLines]

example : Program.planLines
    { sequentialWrite := 18, sequentialRead := 7, randomWrite := -3, randomRead := 0 } =
      ["", "Planned quotas:", "  SW commands: 18", "  SR commands: 7", "  RW commands: -3",
        "  RR commands: 0", "", "Dry run mode - configuration validated successfully"] := by
  decide +kernel

theorem rule_eq : rule = "═══════════════════════════════════════════════════════════" := by
  decide +kernel

theorem report_eq (result : Report) (traceFile : String) :
    [""] ++ report result (some traceFile) = resultLines grouped result traceFile := by
  simp only [report, rule_eq, indented_planned, resultLines, List.cons_append, List.nil_append]
  rfl

theorem printed_block (earlier : String) (lines : List String) :
    Printed earlier lines (earlier ++ block lines) := rfl

theorem tellsResult (result : Report) (traceFile earlier : String) :
    TellsResult result traceFile earlier
      (earlier ++ block ([""] ++ report result (some traceFile))) := by
  refine ⟨grouped, ?_, ?_⟩
  · intro count
    rw [grouped, String.toList_ofList]
    exact Grouped.grouping_ofNat count.toNat
  · rw [report_eq]
    exact printed_block earlier _

end AccessTrace.Summary
