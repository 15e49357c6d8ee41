/-
Module: AccessTrace.RunReport
Purpose: The report that a run leaves for other programs.
Main exports:
  RunReport, RunReport.ofRun
-/
import AccessTrace.Quotas

namespace AccessTrace

/-- The name of the program in its reports. -/
def toolName : String := "memtrace"

/-- The version of the program in its reports. -/
def toolVersion : String := "0.1.0"

/-- What was asked for, what followed from it, and what came out. -/
structure RunReport where
  tool : String
  version : String
  /-- When the run was. -/
  generatedAt : String
  traceFile : Option String
  config : Config
  derived : DerivedRatios
  planned : Quotas
  emitted : ClassCounts
  totalRecords : UInt64
deriving DecidableEq

/-- The report on a run of this program. -/
def RunReport.ofRun (config : Config) (report : Report) (traceFile : Option String)
    (generatedAt : String) : RunReport where
  tool := toolName
  version := toolVersion
  generatedAt
  traceFile
  config
  derived := config.derivedRatios
  planned := report.planned
  emitted := report.emitted
  totalRecords := report.totalRecords

end AccessTrace
