/-
Module: AccessTrace.Config.Basic
Purpose: The parameters of a run, what follows from them, and where its results go.
Main exports:
  Config, Config.readRatio, Config.burstSpan?, DerivedRatios, OutputTargets, RunConfig
-/
import AccessTrace.Binary64.Arithmetic

namespace AccessTrace

open Binary64 (hundred)

/-- One half. -/
def Binary64.half : Binary64 := ofNat 1 / ofNat 2

/-- The parameters of a run.  Nothing about them is checked here; a plan is
made from them only after they have been. -/
structure Config where
  /-- No access reaches this address or goes beyond it. -/
  maxAddress : UInt64
  /-- How many accesses are asked for. -/
  instructionCount : UInt64
  /-- The writes among the accesses, in percent. -/
  writeRatio : Binary64 := .ofNat 50
  /-- The part of the writes that comes in bursts. -/
  writeSequentialFraction : Binary64 := .half
  /-- The part of the reads that comes in bursts. -/
  readSequentialFraction : Binary64 := .half
  /-- The extent of one access, and the step inside a burst. -/
  blockSize : UInt64 := 4096
  /-- How many accesses one burst has. -/
  sequentialBlockCount : UInt64 := 8
  /-- Whether bursts and random writes start at multiples of the block size. -/
  alignToBlockSize : Bool := false
  /-- What the draws start from; without it every run differs. -/
  seed : Option UInt64 := none
deriving DecidableEq

/-- Percentages that follow from the parameters. -/
structure DerivedRatios where
  readPercent : Binary64
  readRandomPercent : Binary64
  writeRandomPercent : Binary64
deriving DecidableEq

namespace Config

/-- The reads among the accesses, in percent. -/
def readRatio (config : Config) : Binary64 :=
  hundred - config.writeRatio

/-- How many bytes a burst covers, without any bound. -/
def exactBurstSpan (config : Config) : Nat :=
  config.blockSize.toNat * config.sequentialBlockCount.toNat

/-- How many bytes a burst covers, if 64 bits can say so. -/
def burstSpan? (config : Config) : Option UInt64 :=
  if config.exactBurstSpan < UInt64.size then some (UInt64.ofNat config.exactBurstSpan) else none

/-- The percentages that follow from the parameters. -/
def derivedRatios (config : Config) : DerivedRatios where
  readPercent := config.readRatio
  readRandomPercent := hundred - config.readSequentialFraction * hundred
  writeRandomPercent := hundred - config.writeSequentialFraction * hundred

end Config

/-- The file that a trace goes to unless another is named. -/
def defaultTraceFile : String := "user_trace.trace"

/-- Where the results of a run go. -/
structure OutputTargets where
  traceFile : String := defaultTraceFile
  jsonReport : Option String := none
deriving DecidableEq, Repr

/-- All that a run is asked to do. -/
structure RunConfig where
  trace : Config
  output : OutputTargets := {}
deriving DecidableEq

end AccessTrace
