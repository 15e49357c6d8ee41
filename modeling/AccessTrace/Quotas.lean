/-
Module: AccessTrace.Quotas
Purpose: How many accesses of each class a run plans, and how many it has made.
Main exports:
  Quotas, Quotas.compute, Quotas.anyPositive, Quotas.hasSequentialWork, Quotas.totalPositive,
  ClassCounts, Report
-/
import AccessTrace.Config.Basic
import AccessTrace.Record

namespace AccessTrace

open Binary64 (hundred)

/-!
Accesses are of four classes, by kind and by whether they come in bursts.  The
parameters give each class a quota.  Every quota is rounded down on its own,
so the four need not add up to the count that was asked for.  The product is
formed from left to right and rounded at each step; a different order can give
a different quota.
-/

/-- The accesses that each class has in a plan, or has left of it.  A quota
that is not positive stands for no work. -/
structure Quotas where
  sequentialWrite : Int64
  sequentialRead : Int64
  randomWrite : Int64
  randomRead : Int64
deriving DecidableEq, Repr, Inhabited

namespace Quotas

/-- One hundredth of a number, rounded down. -/
def floorPercent (value : Binary64) : Int64 :=
  (value / hundred).floorInt64

/-- The quotas that follow from the parameters. -/
def compute (config : Config) : Quotas :=
  let count := Binary64.ofNat config.instructionCount.toNat
  let writes := count * config.writeRatio
  let reads := count * config.readRatio
  let sequentialWrite := floorPercent (writes * config.writeSequentialFraction)
  let sequentialRead := floorPercent (reads * config.readSequentialFraction)
  { sequentialWrite, sequentialRead
    randomWrite := floorPercent writes - sequentialWrite
    randomRead := floorPercent reads - sequentialRead }

/-- Whether any class has work left. -/
def anyPositive (quotas : Quotas) : Bool :=
  0 < quotas.sequentialWrite || 0 < quotas.randomRead ||
    0 < quotas.sequentialRead || 0 < quotas.randomWrite

/-- Whether a burst is due. -/
def hasSequentialWork (quotas : Quotas) : Bool :=
  0 < quotas.sequentialWrite || 0 < quotas.sequentialRead

/-- The work in a quota. -/
def work (quota : Int64) : UInt64 :=
  UInt64.ofNat quota.toInt.toNat

/-- The work in all four quotas. -/
def totalPositive (quotas : Quotas) : UInt64 :=
  work quotas.sequentialWrite + work quotas.sequentialRead + work quotas.randomWrite +
    work quotas.randomRead

end Quotas

/-- The accesses that a run has made, by class. -/
structure ClassCounts where
  sequentialWrite : UInt64 := 0
  sequentialRead : UInt64 := 0
  randomWrite : UInt64 := 0
  randomRead : UInt64 := 0
deriving DecidableEq, Repr, Inhabited

namespace ClassCounts

/-- All accesses. -/
def total (counts : ClassCounts) : UInt64 :=
  counts.sequentialWrite + counts.sequentialRead + counts.randomWrite + counts.randomRead

/-- The writes. -/
def writes (counts : ClassCounts) : UInt64 :=
  counts.sequentialWrite + counts.randomWrite

/-- The reads. -/
def reads (counts : ClassCounts) : UInt64 :=
  counts.sequentialRead + counts.randomRead

end ClassCounts

/-- What a run planned and what it made. -/
structure Report where
  planned : Quotas
  emitted : ClassCounts
deriving DecidableEq, Repr, Inhabited

namespace Report

/-- How many records the trace has. -/
def totalRecords (report : Report) : UInt64 :=
  report.emitted.total

/-- How many records of a trace are of one kind. -/
def countKind (records : List Record) (kind : Kind) : Nat :=
  records.countP (·.kind == kind)

end Report
end AccessTrace
